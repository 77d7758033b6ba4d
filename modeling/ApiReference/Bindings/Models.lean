import ApiReference.Bindings.Doc
import ApiReference.Bindings.Identifier
import ApiReference.Bindings.RustType
import ApiReference.Catalog.Basic

/-!
The generated data model: a Rust structure for each data type. Source is made as lines, each
without the line feed at its end.
-/

namespace ApiReference

/-- Lines put together, each with a line feed at its end. -/
def sourceText (lines : List String) : String := String.join (lines.map fun line => line ++ "\n")

namespace Bindings

def header : String := "// Code generated by docbind. DO NOT EDIT."

def memberIndent : String := "    "

/-- A member of a structure, with the attribute that ties it to its name in the wire format. -/
def member (wire : String) (type : WireType) (optional : Bool) : List String :=
  let name := Identifier.field wire
  if optional then
    [memberIndent ++ "#[serde(rename = \"" ++ wire ++
      "\", default, skip_serializing_if = \"Option::is_none\")]",
      memberIndent ++ "pub " ++ name ++ ": Option<" ++ type.rustMember ++ ">,"]
  else
    [memberIndent ++ "#[serde(rename = \"" ++ wire ++ "\")]",
      memberIndent ++ "pub " ++ name ++ ": " ++ type.rustMember ++ ","]

def fieldMember (f : Field) : List String :=
  Doc.comment f.description memberIndent ++ member f.name f.type f.optional

def dataStruct (t : DataType) : List String :=
  Doc.entry t.description t.notes "" ++
    ["#[derive(Debug, Clone, Serialize, Deserialize)]", "pub struct " ++ t.name ++ " \x7b"] ++
    t.fields.flatMap fieldMember ++ ["\x7d"]

def models (types : List DataType) : String :=
  sourceText ([header, "#![allow(non_snake_case)]", "", "use serde::\x7bDeserialize, Serialize\x7d;"] ++
    types.flatMap fun t => "" :: dataStruct t)

end Bindings

end ApiReference
