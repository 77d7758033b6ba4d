import ApiReference.Bindings.Models
import ApiReference.Settings.Basic

/-!
The generated methods: for each operation an asynchronous method of the client, which passes its
request on to the one method that performs requests, and for each operation with parameters a
structure that holds them.
-/

namespace ApiReference.Bindings

def parameterMember (p : Parameter) : List String :=
  Doc.comment p.description memberIndent ++ member p.name p.type (!p.required)

def requestStruct (o : Operation) : List String :=
  ["/// Parameters of \x60" ++ o.name ++ "\x60.", "#[derive(Debug, Clone, Serialize)]",
    "pub struct " ++ Identifier.request o.name ++ " \x7b"] ++
    o.parameters.flatMap parameterMember ++ ["\x7d"]

def method (errorType : String) (o : Operation) : List String :=
  let result := "Result<" ++ o.returns.rustValue ++ ", " ++ errorType ++ "> \x7b"
  let start := memberIndent ++ "pub async fn " ++ Identifier.method o.name
  let call := "        self.perform(\"" ++ o.name ++ "\", "
  let body :=
    if o.parameters.isEmpty then
      [start ++ "(&self) -> " ++ result, call ++ "None::<&()>).await"]
    else
      [start ++ "(&self, request: &" ++ Identifier.request o.name ++ ") -> " ++ result,
        call ++ "Some(request)).await"]
  Doc.entry o.description o.notes memberIndent ++ body ++ [memberIndent ++ "\x7d"]

/-- Methods with an empty line between any two. -/
def methods (errorType : String) : List Operation → List String
  | [] => []
  | [o] => method errorType o
  | o :: p :: rest => method errorType o ++ "" :: methods errorType (p :: rest)

def client (s : OutputSettings) (operations : List Operation) : String :=
  sourceText (
    [header, "#![allow(non_snake_case, unused_imports)]", "", "use serde::Serialize;", "",
      "use " ++ s.modelsPath ++ "::*;",
      "use " ++ s.transportPath ++ "::\x7b" ++ s.clientType ++ ", " ++ s.errorType ++ "\x7d;"] ++
    ((operations.filter fun o => !o.parameters.isEmpty).flatMap fun o => "" :: requestStruct o) ++
    ["", "impl " ++ s.clientType ++ " \x7b"] ++ methods s.errorType operations ++ ["\x7d"])

end ApiReference.Bindings
