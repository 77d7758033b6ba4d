import ApiReference.Html.Node

/-!
A document under construction. Markup can move nodes about after they were made, so while it is
read the nodes are kept in the order in which they were made and refer to each other by their
places in that order. Node 0 is the document.
-/

namespace ApiReference.Html

structure Draft.Cell where
  label : Label
  parent : Option Nat
  children : Array Nat
  deriving Inhabited

/-- The nodes made so far, those that are no longer part of the document included. -/
structure Draft where
  cells : Array Draft.Cell

namespace Draft

def empty : Draft := ⟨#[⟨.document, none, #[]⟩]⟩

def label (d : Draft) (id : Nat) : Label :=
  match d.cells[id]? with
  | some cell => cell.label
  | none => .document

def parent? (d : Draft) (id : Nat) : Option Nat := d.cells[id]?.bind Cell.parent

def children (d : Draft) (id : Nat) : Array Nat :=
  match d.cells[id]? with
  | some cell => cell.children
  | none => #[]

def element? (d : Draft) (id : Nat) : Option Element :=
  match d.label id with
  | .element e => some e
  | _ => none

def update (d : Draft) (id : Nat) (f : Cell → Cell) : Draft := ⟨d.cells.modify id f⟩

/-- A new node that is part of nothing yet. -/
def create (d : Draft) (label : Label) : Nat × Draft :=
  (d.cells.size, ⟨d.cells.push ⟨label, none, #[]⟩⟩)

def detach (d : Draft) (id : Nat) : Draft :=
  match d.parent? id with
  | none => d
  | some p =>
    (d.update p fun cell => { cell with children := cell.children.filter (· != id) }).update id
      fun cell => { cell with parent := none }

def append (d : Draft) (parent id : Nat) : Draft :=
  let d := d.detach id
  (d.update parent fun cell => { cell with children := cell.children.push id }).update id
    fun cell => { cell with parent := some parent }

def insertBefore (d : Draft) (sibling id : Nat) : Draft :=
  let d := d.detach id
  match d.parent? sibling with
  | none => d
  | some p =>
    (d.update p fun cell =>
      { cell with children := cell.children.flatMap fun c => if c == sibling then #[id, c] else #[c] }).update
      id fun cell => { cell with parent := some p }

/-- Adds characters to a text node; other nodes are left as they are. -/
def extendText? (d : Draft) (id : Nat) (content : String) : Option Draft :=
  match d.label id with
  | .text t => some (d.update id fun cell => { cell with label := .text (t ++ content) })
  | _ => none

/-- Adds text after the last child of a node: to that child if it is a text node. -/
def appendText (d : Draft) (parent : Nat) (content : String) : Draft :=
  let joined := (d.children parent).back?.bind fun last => d.extendText? last content
  match joined with
  | some d => d
  | none =>
    let (id, d) := d.create (.text content)
    d.append parent id

/-- Adds text before a sibling: to the node before it if that is a text node. -/
def insertTextBefore (d : Draft) (sibling : Nat) (content : String) : Draft :=
  let siblings := ((d.parent? sibling).map d.children).getD #[]
  let previous := (siblings.toList.takeWhile (· != sibling)).getLast?
  match previous.bind fun p => d.extendText? p content with
  | some d => d
  | none =>
    let (id, d) := d.create (.text content)
    d.insertBefore sibling id

def moveChildren (d : Draft) (source target : Nat) : Draft :=
  (d.children source).foldl (fun d id => d.append target id) d

/-- The tree below a node, cut at a depth of `fuel`. -/
def subtree (d : Draft) : Nat → Nat → Node
  | 0, id => .mk (d.label id) []
  | fuel + 1, id => .mk (d.label id) ((d.children id).toList.map (d.subtree fuel))

/-- The finished document. No tree is deeper than it has nodes. -/
def toNode (d : Draft) : Node := d.subtree d.cells.size 0

end Draft

end ApiReference.Html
