import ApiReference.Bindings.Methods
import ApiReference.Catalog.Dump

/-!
The four texts made from a catalog: its two dumps and the two files of generated source.
-/

namespace ApiReference

/-- The texts made from a catalog. -/
structure Artifacts where
  typesDump : String
  operationsDump : String
  models : String
  bindings : String
  deriving DecidableEq, Inhabited

def Catalog.artifacts (c : Catalog) (s : OutputSettings) : Artifacts where
  typesDump := dumpTypes c.types
  operationsDump := dumpOperations c.operations
  models := Bindings.models c.types
  bindings := Bindings.client s c.operations

end ApiReference
