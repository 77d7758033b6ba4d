import ApiReference.Html.Document
import ApiReference.Page.Returns
import ApiReference.Page.Rows

/-!
The catalog of a page: each section describes a data type or an operation. A section that looks
like a data type but has no table is only prose.
-/

namespace ApiReference

open Html

/-- What a section adds to a catalog. -/
inductive Entry where
  | dataType (t : DataType)
  | operation (o : Operation)

def Entry.dataType? : Entry → Option DataType
  | .dataType t => some t
  | .operation _ => none

def Entry.operation? : Entry → Option Operation
  | .operation o => some o
  | .dataType _ => none

namespace Page

variable {root : Node}

def Section.entry? (s : Section root) : Except PageFault (Option Entry) :=
  match s.kind with
  | .dataType =>
    if s.table.isNone then .ok none
    else do return some (.dataType ⟨s.title, s.description, s.notes, ← s.fields⟩)
  | .operation => do
    let parameters ← s.parameters
    let returns ← returnType s.description
    return some (.operation ⟨s.title, s.description, s.notes, parameters, returns⟩)

/-- The catalog of some sections, its names not looked up. -/
def catalogOf (sections : List (Section root)) : Except PageFault Catalog := do
  let entries := (← sections.mapM Section.entry?).filterMap id
  return ⟨entries.filterMap Entry.dataType?, entries.filterMap Entry.operation?⟩

def catalog (settings : LayoutSettings) (root : Node) : Except PageFault Catalog := do
  let layout ← (Layout.ofSettings settings).mapError .selector
  let content ← layout.contentOf root
  let unresolved ← catalogOf (layout.sections content)
  return unresolved.resolved

end Page

end ApiReference
