/-!
The settings of a run: where the page comes from, how its sections are found, and what is
written under which names.
-/

namespace ApiReference

structure SourceSettings where
  url : String := "https://core.telegram.org/bots/api"
  /-- How long a fetch may take; without a limit it waits for as long as it takes. -/
  timeoutSeconds : Option Nat := none
  userAgent : String := "docbind/0.1.0"
  deriving DecidableEq, Inhabited

/-- The selectors that find the sections of a page. -/
structure LayoutSettings where
  /-- Headings that may start a section. -/
  heading : String := "h4"
  /-- What a heading must contain to start one. -/
  anchor : String := "a.anchor"
  /-- Where headings are looked for. -/
  content : String := "body"
  deriving DecidableEq, Inhabited

structure OutputSettings where
  directory : String := "generated"
  typesDump : String := "types.json"
  operationsDump : String := "operations.json"
  modelsFile : String := "models.rs"
  bindingsFile : String := "bindings.rs"
  manifestFile : String := "manifest.json"
  /-- The type that the methods belong to. -/
  clientType : String := "Client"
  /-- The type of the errors that the methods return. -/
  errorType : String := "ApiError"
  /-- The module that has the client and the error type. -/
  transportPath : String := "super"
  /-- The module that has the data types. -/
  modelsPath : String := "super::models"
  deriving DecidableEq, Inhabited

structure Settings where
  source : SourceSettings := {}
  layout : LayoutSettings := {}
  output : OutputSettings := {}
  deriving DecidableEq, Inhabited

end ApiReference
