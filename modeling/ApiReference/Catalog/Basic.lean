import ApiReference.WireType.Basic

/-!
What a reference page describes: data types with their fields, and operations with their
parameters and results, both in the order of the page. Types name data types, and
`Catalog.resolved` marks the names that no data type of the catalog has.
-/

namespace ApiReference

structure Field where
  name : String
  type : WireType
  optional : Bool
  description : String
  deriving DecidableEq, Inhabited

structure Parameter where
  name : String
  type : WireType
  required : Bool
  description : String
  deriving DecidableEq, Inhabited

structure DataType where
  name : String
  description : String
  notes : String
  fields : List Field
  deriving DecidableEq, Inhabited

structure Operation where
  name : String
  description : String
  notes : String
  parameters : List Parameter
  returns : WireType
  deriving DecidableEq, Inhabited

structure Catalog where
  types : List DataType
  operations : List Operation
  deriving DecidableEq, Inhabited

/-- A field with the names in its type looked up. -/
def Field.resolve (registry : TypeRegistry) (f : Field) : Field :=
  { f with type := f.type.resolve registry }

def Parameter.resolve (registry : TypeRegistry) (p : Parameter) : Parameter :=
  { p with type := p.type.resolve registry }

def DataType.resolve (registry : TypeRegistry) (t : DataType) : DataType :=
  { t with fields := t.fields.map (Field.resolve registry) }

def Operation.resolve (registry : TypeRegistry) (o : Operation) : Operation :=
  { o with
    parameters := o.parameters.map (Parameter.resolve registry)
    returns := o.returns.resolve registry }

namespace Catalog

/-- The names of the data types of a catalog. -/
def registry (c : Catalog) : TypeRegistry := .ofList (c.types.map DataType.name)

def resolve (registry : TypeRegistry) (c : Catalog) : Catalog :=
  ⟨c.types.map (DataType.resolve registry), c.operations.map (Operation.resolve registry)⟩

/-- A catalog with its names looked up among its own data types. -/
def resolved (c : Catalog) : Catalog := c.resolve c.registry

end Catalog

end ApiReference
