import ApiReference.Catalog.Basic
import ApiReference.Json.Record
import ApiReference.WireType.Notation

/-!
Dumps: the data types and the operations of a catalog as JSON texts, which `Catalog.ofDumps`
reads back. Texts and lists that are empty are left out, and types stand in type notation.
-/

namespace ApiReference

/-- A member of an object for a text; none for an empty one. -/
def textMember (name text : String) : List (String × Json) :=
  if text.isEmpty then [] else [(name, .text text)]

def listMember (name : String) (items : List Json) : List (String × Json) :=
  if items.isEmpty then [] else [(name, .list items)]

def Field.toJson (f : Field) : Json :=
  .object ([("name", .text f.name), ("type", .text f.type.notationOf),
    ("optional", .bool f.optional)] ++ textMember "description" f.description)

def Parameter.toJson (p : Parameter) : Json :=
  .object ([("name", .text p.name), ("type", .text p.type.notationOf),
    ("required", .bool p.required)] ++ textMember "description" p.description)

def DataType.toJson (t : DataType) : Json :=
  .object ([("name", .text t.name)] ++ textMember "description" t.description ++
    textMember "additional_notes" t.notes ++ listMember "fields" (t.fields.map Field.toJson))

def Operation.toJson (o : Operation) : Json :=
  .object ([("name", .text o.name)] ++ textMember "description" o.description ++
    textMember "additional_notes" o.notes ++
    listMember "parameters" (o.parameters.map Parameter.toJson) ++
    [("return_type", .text o.returns.notationOf)])

def dumpTypes (types : List DataType) : String :=
  (Json.list (types.map DataType.toJson)).pretty ++ "\n"

def dumpOperations (operations : List Operation) : String :=
  (Json.list (operations.map Operation.toJson)).pretty ++ "\n"

/-- What goes wrong in reading a dump: it has another shape, or a text in it is no type
notation. -/
abbrev DumpFault := Json.Fault NotationFault

def dumpError (what : String) : DumpFault → Error
  | .shape => .validation s!"invalid {what} dump"
  | .content fault => .validation (s!"invalid {what} dump: " ++ fault.toError.message)

def WireType.ofJson (p : Json.Parsed) : Except DumpFault WireType := do
  (WireType.ofNotation (← p.asText)).mapError .content

def Field.put (name : String) (p : Json.Parsed) (f : Field) : Except DumpFault Field :=
  match name with
  | "name" => return { f with name := ← p.asText }
  | "type" => return { f with type := ← WireType.ofJson p }
  | "optional" => return { f with optional := ← p.asBool }
  | _ => return { f with description := ← p.asText }

def Field.ofJson : Json.Parsed → Except DumpFault Field :=
  Json.Parsed.asRecord ["name", "type", "optional", "description"] ["name", "type"]
    ⟨"", default, false, ""⟩ Field.put

def Parameter.put (name : String) (p : Json.Parsed) (q : Parameter) :
    Except DumpFault Parameter :=
  match name with
  | "name" => return { q with name := ← p.asText }
  | "type" => return { q with type := ← WireType.ofJson p }
  | "required" => return { q with required := ← p.asBool }
  | _ => return { q with description := ← p.asText }

def Parameter.ofJson : Json.Parsed → Except DumpFault Parameter :=
  Json.Parsed.asRecord ["name", "type", "required", "description"] ["name", "type"]
    ⟨"", default, false, ""⟩ Parameter.put

def DataType.put (name : String) (p : Json.Parsed) (t : DataType) : Except DumpFault DataType :=
  match name with
  | "name" => return { t with name := ← p.asText }
  | "description" => return { t with description := ← p.asText }
  | "additional_notes" => return { t with notes := ← p.asText }
  | _ => return { t with fields := ← p.asList Field.ofJson }

def DataType.ofJson : Json.Parsed → Except DumpFault DataType :=
  Json.Parsed.asRecord ["name", "description", "additional_notes", "fields"] ["name"]
    ⟨"", "", "", []⟩ DataType.put

def Operation.put (name : String) (p : Json.Parsed) (o : Operation) :
    Except DumpFault Operation :=
  match name with
  | "name" => return { o with name := ← p.asText }
  | "description" => return { o with description := ← p.asText }
  | "additional_notes" => return { o with notes := ← p.asText }
  | "parameters" => return { o with parameters := ← p.asList Parameter.ofJson }
  | _ => return { o with returns := ← WireType.ofJson p }

def Operation.ofJson : Json.Parsed → Except DumpFault Operation :=
  Json.Parsed.asRecord ["name", "description", "additional_notes", "parameters", "return_type"]
    ["name", "return_type"] ⟨"", "", "", [], default⟩ Operation.put

def readTypes (text : String) : Except Error (List DataType) :=
  (Json.read text (Json.Parsed.asList DataType.ofJson)).mapError (dumpError "types")

def readOperations (text : String) : Except Error (List Operation) :=
  (Json.read text (Json.Parsed.asList Operation.ofJson)).mapError (dumpError "operations")

/-- The catalog that two dumps hold. -/
def Catalog.ofDumps (types operations : String) : Except Error Catalog := do
  return ⟨← readTypes types, ← readOperations operations⟩

end ApiReference
