import ApiReference.Html.Position
import ApiReference.Html.Selector

/-!
Finding nodes by selectors: below a node, among its siblings, and around it. A search below a node
takes the lists of siblings from a queue and walks along each of them before it descends. A chain of
selectors finds with each selector below what the one before it found.
-/

namespace ApiReference.Html.Position

variable {root : Node} {σ τ : Type}

/-- The nodes that are searched and descended into: documents and elements, but not the contents
of templates. -/
def isSearched (p : Position root) : Bool :=
  match p.node.label with
  | .document | .element _ => true
  | _ => false

/-- Walks along siblings and visits those that a selector matches, until the visitor stops. The
children of each searched sibling are put at the end of a queue of sibling lists. -/
def scanSiblings (s : Selector) (visit : σ → Position root → Except τ σ) :
    List (Position root) → List (List (Position root)) → σ →
      Except τ (List (List (Position root)) × σ)
  | [], queue, sofar => .ok (queue, sofar)
  | q :: siblings, queue, sofar =>
    if q.isSearched then do
      let sofar ← if s.matchesNode q.node then visit sofar q else .ok sofar
      scanSiblings s visit siblings (queue ++ [q.children]) sofar
    else scanSiblings s visit siblings queue sofar

/-- Takes sibling lists off a queue and walks along each of them, until none is left or the visitor
stops; `fuel` bounds how many there are. -/
def scanQueue (s : Selector) (visit : σ → Position root → Except τ σ) :
    Nat → List (List (Position root)) → σ → Except τ σ
  | 0, _, sofar | _, [], sofar => .ok sofar
  | fuel + 1, siblings :: queue, sofar => do
    let (queue, sofar) ← scanSiblings s visit siblings queue sofar
    scanQueue s visit fuel queue sofar

/-- Visits what a chain of selectors finds below a node, until the visitor stops. What the first
selector matches is searched with the rest of the chain before the search goes on. -/
def scan (visit : σ → Position root → Except τ σ) :
    List Selector → Position root → σ → Except τ σ
  | [], _, sofar => .ok sofar
  | [s], p, sofar => scanQueue s visit p.node.size [p.children] sofar
  | s :: t :: rest, p, sofar =>
    scanQueue s (fun sofar q => scan visit (t :: rest) q sofar) p.node.size [p.children] sofar

def selectAll (p : Position root) (chain : List Selector) : List (Position root) :=
  let collect (found : List (Position root)) (q : Position root) : Except Empty _ := .ok (q :: found)
  match scan collect chain p [] with
  | .ok found => found.reverse

/-- The first node that a chain of selectors finds below a node. The search ends there. -/
def selectFirst? (p : Position root) (chain : List Selector) : Option (Position root) :=
  match scan (fun _ q => .error q) chain p () with
  | .error first => some first
  | .ok () => none

def queryAll (p : Position root) (first : String) (nested : List String) :
    Except SelectorFault (List (Position root)) := do
  return p.selectAll (← Selector.parseChain first nested)

def query? (p : Position root) (first : String) (nested : List String) :
    Except SelectorFault (Option (Position root)) := do
  return p.selectFirst? (← Selector.parseChain first nested)

def nextMatching? (p : Position root) (s : Selector) : Option (Position root) :=
  p.nextSiblings.find? fun q => s.matchesNode q.node

def previousMatching? (p : Position root) (s : Selector) : Option (Position root) :=
  p.previousSiblings.find? fun q => s.matchesNode q.node

/-- The innermost node around a node that a selector matches. -/
def closest? (p : Position root) (s : Selector) : Option (Position root) :=
  p.ancestors.find? fun q => s.matchesNode q.node

end ApiReference.Html.Position
