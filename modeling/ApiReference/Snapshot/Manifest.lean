import ApiReference.Error
import ApiReference.Json.Record
import ApiReference.Snapshot.Sha256
import ApiReference.Snapshot.Timestamp

/-!
The manifest of a snapshot: what a snapshot was made from and when, and for each of its files the
length and the digest. `Manifest.text` writes it as JSON and `Manifest.ofText` reads it.
-/

namespace ApiReference

structure FileRecord where
  name : String
  sha256 : String
  size : Nat
  deriving DecidableEq, Inhabited

def FileRecord.of (name content : String) : FileRecord :=
  ⟨name, Sha256.digest content.toUTF8, content.utf8ByteSize⟩

structure Provenance where
  /-- The address or the path that the page was read from. -/
  source : String
  toolVersion : String
  /-- The digest of the page, if it is known. -/
  inputSha256 : Option String
  typeCount : Nat
  operationCount : Nat
  deriving DecidableEq, Inhabited

structure Manifest where
  version : Nat
  provenance : Provenance
  generatedAt : Timestamp
  files : List FileRecord
  deriving DecidableEq, Inhabited

/-- The version of the form that manifests have. -/
def manifestVersion : Nat := 1

def Manifest.of (p : Provenance) (now : Timestamp) (files : List FileRecord) : Manifest :=
  ⟨manifestVersion, p, now, files⟩

def FileRecord.toJson (r : FileRecord) : Json :=
  .object [("filename", .text r.name), ("sha256", .text r.sha256), ("size_bytes", .number r.size)]

def Manifest.toJson (m : Manifest) : Json :=
  let p := m.provenance
  .object ([("schema_version", .number m.version), ("source_url", .text p.source),
    ("tool_version", .text p.toolVersion), ("generated_at", .text m.generatedAt.text)] ++
    (match p.inputSha256 with
      | some digest => [("input_sha256", .text digest)]
      | none => []) ++
    [("type_count", .number p.typeCount), ("operation_count", .number p.operationCount),
      ("artifacts", .list (m.files.map FileRecord.toJson))])

def Manifest.text (m : Manifest) : String := m.toJson.pretty

/-- What goes wrong in reading a manifest: it has another shape, or its date is none. -/
abbrev ManifestFault := Json.Fault Unit

/-- The bound on the numbers of a manifest. -/
def countBound : Nat := Nat.pow 2 64

def versionBound : Nat := Nat.pow 2 32

def FileRecord.put (name : String) (p : Json.Parsed) (r : FileRecord) :
    Except ManifestFault FileRecord :=
  match name with
  | "filename" => return { r with name := ← p.asText }
  | "sha256" => return { r with sha256 := ← p.asText }
  | _ => return { r with size := ← p.asNumber countBound }

def FileRecord.ofJson : Json.Parsed → Except ManifestFault FileRecord :=
  Json.Parsed.asRecord ["filename", "sha256", "size_bytes"] ["filename", "sha256", "size_bytes"]
    default FileRecord.put

def Timestamp.ofJson (p : Json.Parsed) : Except ManifestFault Timestamp := do
  match Timestamp.ofText? (← p.asText) with
  | some t => return t
  | none => throw (.content ())

def Manifest.put (name : String) (p : Json.Parsed) (m : Manifest) :
    Except ManifestFault Manifest :=
  let v := m.provenance
  match name with
  | "schema_version" => return { m with version := ← p.asNumber versionBound }
  | "source_url" => return { m with provenance := { v with source := ← p.asText } }
  | "tool_version" => return { m with provenance := { v with toolVersion := ← p.asText } }
  | "generated_at" => return { m with generatedAt := ← Timestamp.ofJson p }
  | "input_sha256" =>
    return { m with provenance := { v with inputSha256 := ← p.asOptional Json.Parsed.asText } }
  | "type_count" => return { m with provenance := { v with typeCount := ← p.asNumber countBound } }
  | "operation_count" =>
    return { m with provenance := { v with operationCount := ← p.asNumber countBound } }
  | _ => return { m with files := ← p.asList FileRecord.ofJson }

/-- Reads a manifest of any version. -/
def Manifest.ofJson : Json.Parsed → Except ManifestFault Manifest :=
  Json.Parsed.asRecord ["schema_version", "source_url", "tool_version", "generated_at",
      "input_sha256", "type_count", "operation_count", "artifacts"]
    ["schema_version", "source_url", "tool_version", "generated_at", "type_count",
      "operation_count"] default Manifest.put

/-- Reads a manifest from the file at a path. Only manifests of the current version are read. -/
def Manifest.ofText (path text : String) : Except Error Manifest :=
  match Json.read text Manifest.ofJson with
  | .error _ => .error (.validation ("invalid manifest " ++ path))
  | .ok m =>
    if m.version == manifestVersion then .ok m
    else .error (.validation
      s!"unsupported schema_version: {m.version} (expected {manifestVersion})")

end ApiReference
