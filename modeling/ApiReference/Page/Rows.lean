import ApiReference.Catalog.Basic
import ApiReference.Page.Section
import ApiReference.Page.TypeCell

/-!
The tables of a page: each row with cells describes a field of a data type, or a parameter of an
operation.
-/

namespace ApiReference.Page

open Html

variable {root : Node}

/-- The cells of the rows of a table. Rows without any, such as header rows, are left out. -/
def rowsOf (table : Position root) : List (List (Position root)) :=
  -- Rows of a table that stands in a cell of this one are below it, too.
  ((table.selectAll [.ofTag "tbody", .ofTag "tr"]).map fun row =>
    row.children.filter fun cell => cell.node.name == "td").filter fun cells => !cells.isEmpty

def cellText (cell : Position root) : String := Text.trimmed cell.node.innerText

def cellProse (cell : Position root) : String := Text.trimmed (prose cell.node)

def hasEmphasis (cell : Position root) : Bool := (cell.selectFirst? [.ofTag "em"]).isSome

/-- Whether a cell begins with the word `optional`, in any letter case. -/
def readsOptional (cell : Position root) : Bool :=
  "optional".toList.isPrefixOf (Text.lowercase (cellText cell)).toList

/-- The field that a row describes: its name, its type, and its description, which emphasis marks
as optional. In a row of four cells or more the third says whether the field is optional and the
fourth describes it. -/
def fieldOfRow (title : String) (row : Nat) : List (Position root) → Except PageFault Field
  | [name, type, description] => do
    let wire := cellText name
    let type ← (cellType wire type).mapError .type
    return ⟨wire, type, hasEmphasis description, cellProse description⟩
  | name :: type :: mark :: description :: _ => do
    let wire := cellText name
    let type ← (cellType wire type).mapError .type
    return ⟨wire, type, hasEmphasis mark || readsOptional mark, cellProse description⟩
  | cells => .error (.shortRow title row cells.length 3)

/-- The parameter that a row describes: its name, its type, whether it is required, and its
description. -/
def parameterOfRow (title : String) (row : Nat) :
    List (Position root) → Except PageFault Parameter
  | name :: type :: required :: description :: _ => do
    let wire := cellText name
    let type ← (cellType wire type).mapError .type
    return ⟨wire, type, Text.equalIgnoringCase (cellText required) "yes", cellProse description⟩
  | cells => .error (.shortRow title row cells.length 4)

def readRows (read : Nat → List (Position root) → Except PageFault α) (row : Nat) :
    List (List (Position root)) → Except PageFault (List α)
  | [] => .ok []
  | cells :: rest => do
    let first ← read row cells
    return first :: (← readRows read (row + 1) rest)

namespace Section

/-- The rows of the table of a section; none without a table. -/
def rows (s : Section root) : List (List (Position root)) :=
  match s.table with
  | some table => rowsOf table
  | none => []

def fields (s : Section root) : Except PageFault (List Field) :=
  readRows (fieldOfRow s.title) 1 s.rows

def parameters (s : Section root) : Except PageFault (List Parameter) :=
  readRows (parameterOfRow s.title) 1 s.rows

end Section

end ApiReference.Page
