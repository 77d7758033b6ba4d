import ApiReference.Html.Selector
import ApiReference.WireType.Word

/-!
Why a page cannot be read as a catalog.
-/

namespace ApiReference

inductive PageFault where
  | selector (fault : Html.SelectorFault)
  | noContent (selector : String)
  /-- A table row has fewer cells than its table needs; rows are counted from one. -/
  | shortRow (title : String) (row found needed : Nat)
  | type (fault : TypeFault)
  | noReturnType (description : String)
  deriving DecidableEq

def PageFault.toError : PageFault → Error
  | .selector fault => fault.toError
  | .noContent text => .parse s!"no element matches content selector '{text}'"
  | .shortRow title row found needed =>
    .parse s!"{title}: row {row} has {found} columns, expected at least {needed}"
  | .type fault => fault.toError
  | .noReturnType description =>
    .classification ("could not infer return type from: " ++ description)

end ApiReference
