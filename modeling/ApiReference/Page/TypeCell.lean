import ApiReference.Html.Select
import ApiReference.WireType.Word

/-!
The type that a table cell describes: its text, with the links in it as the names of data types.
-/

namespace ApiReference.Page

open Html

variable {root : Node}

/-- The texts of the links in a cell that are not blank. -/
def linkTexts (cell : Position root) : List String :=
  ((cell.selectAll [.ofTag "a"]).map fun link => Text.trimmed link.node.innerText).filter
    fun text => !text.isEmpty

/-- The type that a cell gives the field or parameter of a name. -/
def cellType (field : String) (cell : Position root) : Except TypeFault WireType :=
  WireType.ofLinkedText field cell.node.innerText (linkTexts cell)

end ApiReference.Page
