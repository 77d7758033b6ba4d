import ApiReference.Html.Markup
import ApiReference.Text.Quoted

/-!
Positions in a document. A position is a path of child indices from the root, together with the
node found there; moving about is arithmetic on paths. Two positions are the same exactly if
their paths are.
-/

namespace ApiReference.Html

/-- The node at the end of a path of child indices. -/
def Node.get? : Node → List Nat → Option Node
  | n, [] => some n
  | n, i :: path =>
    match n.children[i]? with
    | some child => child.get? path
    | none => none

theorem Node.get?_append (n : Node) (p q : List Nat) :
    n.get? (p ++ q) = (n.get? p).bind fun m => m.get? q := by
  induction p generalizing n with
  | nil => rfl
  | cons i p ih =>
    simp only [List.cons_append, Node.get?]
    cases n.children[i]? with
    | none => rfl
    | some child => exact ih child

theorem Node.get?_singleton (n : Node) (i : Nat) : n.get? [i] = n.children[i]? := by
  simp only [Node.get?]
  cases n.children[i]? <;> rfl

mutual

def Node.size : Node → Nat
  | .mk _ cs => sizeOfAll cs + 1

def sizeOfAll : List Node → Nat
  | [] => 0
  | n :: rest => n.size + sizeOfAll rest

end

/-- A node of a document, as the place where it stands. -/
structure Position (root : Node) where
  path : List Nat
  node : Node
  found : root.get? path = some node

namespace Position

variable {root : Node}

theorem ext_path {p q : Position root} (h : p.path = q.path) : p = q := by
  obtain ⟨path, node, found⟩ := p
  obtain ⟨path', node', found'⟩ := q
  cases h
  obtain rfl : node = node' := Option.some.inj (found.symm.trans found')
  rfl

instance : DecidableEq (Position root) := fun p q =>
  if h : p.path = q.path then isTrue (ext_path h) else isFalse fun e => h (congrArg path e)

def top (root : Node) : Position root := ⟨[], root, rfl⟩

def at? (path : List Nat) : Option (Position root) :=
  match h : root.get? path with
  | some node => some ⟨path, node, h⟩
  | none => none

/-- The positions of the last children of a node, from index `i` on, where `rest` are their
nodes. -/
def childrenFrom (p : Position root) (i : Nat) (rest : List Node)
    (h : p.node.children.drop i = rest) : List (Position root) :=
  match rest with
  | [] => []
  | n :: later =>
    have here : p.node.children[i]? = some n := by
      rw [← List.head?_drop, h]
      rfl
    have found : root.get? (p.path ++ [i]) = some n := by
      rw [Node.get?_append, p.found, Option.bind_some, Node.get?_singleton, here]
    have next : p.node.children.drop (i + 1) = later := by
      rw [← List.tail_drop, h]
      rfl
    ⟨p.path ++ [i], n, found⟩ :: childrenFrom p (i + 1) later next

def children (p : Position root) : List (Position root) :=
  p.childrenFrom 0 p.node.children List.drop_zero

def parent? (p : Position root) : Option (Position root) :=
  if p.path.isEmpty then none else at? p.path.dropLast

def index (p : Position root) : Nat := p.path.getLast?.getD 0

def siblings (p : Position root) : List (Position root) :=
  match p.parent? with
  | some q => q.children
  | none => []

/-- The siblings after a node, nearest first. -/
def nextSiblings (p : Position root) : List (Position root) := p.siblings.drop (p.index + 1)

/-- The siblings before a node, nearest first. -/
def previousSiblings (p : Position root) : List (Position root) :=
  (p.siblings.take p.index).reverse

/-- The nodes around a node, innermost first, at most `depth` of them. -/
def ancestorsUpTo : Nat → Position root → List (Position root)
  | 0, _ => []
  | depth + 1, p =>
    match p.parent? with
    | some q => q :: ancestorsUpTo depth q
    | none => []

def ancestors (p : Position root) : List (Position root) := ancestorsUpTo p.path.length p

def nextElement? (p : Position root) : Option (Position root) :=
  p.nextSiblings.find? fun s => s.node.isElement

def previousElement? (p : Position root) : Option (Position root) :=
  p.previousSiblings.find? fun s => s.node.isElement

/-- Whether a node is a sibling after `start` and, if there is an end, before that: the search
among the siblings after `start` stops at `stop`. -/
def between (p : Position root) (start stop : Option (Position root)) : Bool :=
  match start with
  | none => false
  | some s => (s.nextSiblings.takeWhile fun q => some q != stop).any (· == p)

def describe (p : Position root) : String :=
  match p.node.label with
  | .element e => "DomNode(<" ++ e.name ++ ">)"
  | .text t => "DomNode(" ++ Text.quoted t ++ ")"
  | .document => "DomNode(#document)"
  | _ => "DomNode(#other)"

end Position

end ApiReference.Html
