import ApiReference.Error
import ApiReference.Files.Basic
import ApiReference.Settings.Basic
import ApiReference.Toml.Document
import ApiReference.Toml.Print

/-!
Settings files: the settings as TOML, in a table for the source, one for the layout and one for
the output. What a file leaves out has its usual value, and what it says beyond is passed over.
-/

namespace ApiReference

def Toml.Value.asText? : Toml.Value → Option String
  | .text s => some s
  | _ => none

def Toml.Value.asCount? : Toml.Value → Option Nat
  | .integer n => if 0 ≤ n then some n.toNat else none
  | _ => none

/-- Reads a group of settings, given as a table or as a list of its values in the usual order.
`put` reads the setting of a name. -/
def readGroup (names : List String) (put : String → Toml.Value → α → Option α) (usual : α) :
    Toml.Value → Option α
  | .table entries =>
    entries.foldlM (fun group (name, v) =>
      if names.contains name then put name v group else some group) usual
  | .list values => (names.zip values).foldlM (fun group (name, v) => put name v group) usual
  | _ => none

def SourceSettings.put (name : String) (v : Toml.Value) (s : SourceSettings) :
    Option SourceSettings :=
  match name with
  | "url" => return { s with url := ← v.asText? }
  | "timeout_secs" => return { s with timeoutSeconds := some (← v.asCount?) }
  | _ => return { s with userAgent := ← v.asText? }

def SourceSettings.ofToml : Toml.Value → Option SourceSettings :=
  readGroup ["url", "timeout_secs", "user_agent"] SourceSettings.put {}

def LayoutSettings.put (name : String) (v : Toml.Value) (s : LayoutSettings) :
    Option LayoutSettings :=
  match name with
  | "heading_selector" => return { s with heading := ← v.asText? }
  | "anchor_selector" => return { s with anchor := ← v.asText? }
  | _ => return { s with content := ← v.asText? }

def LayoutSettings.ofToml : Toml.Value → Option LayoutSettings :=
  readGroup ["heading_selector", "anchor_selector", "content_selector"] LayoutSettings.put {}

def OutputSettings.put (name : String) (v : Toml.Value) (s : OutputSettings) :
    Option OutputSettings :=
  match name with
  | "dir" => return { s with directory := ← v.asText? }
  | "types_dump" => return { s with typesDump := ← v.asText? }
  | "operations_dump" => return { s with operationsDump := ← v.asText? }
  | "models_file" => return { s with modelsFile := ← v.asText? }
  | "bindings_file" => return { s with bindingsFile := ← v.asText? }
  | "manifest_file" => return { s with manifestFile := ← v.asText? }
  | "client_type" => return { s with clientType := ← v.asText? }
  | "error_type" => return { s with errorType := ← v.asText? }
  | "transport_path" => return { s with transportPath := ← v.asText? }
  | _ => return { s with modelsPath := ← v.asText? }

def OutputSettings.ofToml : Toml.Value → Option OutputSettings :=
  readGroup ["dir", "types_dump", "operations_dump", "models_file", "bindings_file",
    "manifest_file", "client_type", "error_type", "transport_path", "models_path"]
    OutputSettings.put {}

namespace Settings

def put (name : String) (v : Toml.Value) (s : Settings) : Option Settings :=
  match name with
  | "source" => return { s with source := ← SourceSettings.ofToml v }
  | "scrape" => return { s with layout := ← LayoutSettings.ofToml v }
  | _ => return { s with output := ← OutputSettings.ofToml v }

def ofToml (entries : List (String × Toml.Value)) : Option Settings :=
  readGroup ["source", "scrape", "output"] put {} (.table entries)

/-- A section with nothing in it gives what a missing one gives: the usual values of its keys are
those that the settings have without it. -/
theorem ofToml_emptySection {name : String} (known : name ∈ ["source", "scrape", "output"])
    (entries : List (String × Toml.Value)) :
    ofToml ((name, .table []) :: entries) = ofToml entries := by
  simp only [List.mem_cons, List.not_mem_nil, or_false] at known
  rcases known with rfl | rfl | rfl <;> rfl

def ofText (path : Path) (text : String) : Except Error Settings :=
  match (Toml.read text).bind ofToml with
  | some s => .ok s
  | none => .error (.config ("failed to parse " ++ path.text))

def toToml (s : Settings) : List (String × List (String × Toml.Plain)) :=
  [("source",
      [("url", .text s.source.url)] ++
      (match s.source.timeoutSeconds with
        | some n => [("timeout_secs", .integer n)]
        | none => []) ++
      [("user_agent", .text s.source.userAgent)]),
    ("scrape",
      [("heading_selector", .text s.layout.heading), ("anchor_selector", .text s.layout.anchor),
        ("content_selector", .text s.layout.content)]),
    ("output",
      [("dir", .text s.output.directory), ("types_dump", .text s.output.typesDump),
        ("operations_dump", .text s.output.operationsDump),
        ("models_file", .text s.output.modelsFile),
        ("bindings_file", .text s.output.bindingsFile),
        ("manifest_file", .text s.output.manifestFile),
        ("client_type", .text s.output.clientType), ("error_type", .text s.output.errorType),
        ("transport_path", .text s.output.transportPath),
        ("models_path", .text s.output.modelsPath)])]

def text (s : Settings) : String := Toml.pretty s.toToml

/-- The directory that the settings file of a user lies in. -/
def directoryOf (home : Path) : Path := home.join ".docbind"

def fileOf (home : Path) : Path := (directoryOf home).join "docbind.toml"

variable {m : Type → Type} [Monad m] [Files m]

def loadFrom (path : Path) : ExceptT Error m Settings := do
  let text ← ExceptT.mk (Files.readText path)
  ExceptT.mk (pure (ofText path text))

/-- The settings of a user. Without a settings file all have their usual values. -/
def load (home : Path) : ExceptT Error m Settings := do
  if ← (Files.isThere (fileOf home) : m Bool) then loadFrom (fileOf home) else return {}

def refused (path : Path) (r : m (Except FileFault Unit)) : ExceptT Error m Unit :=
  ExceptT.mk (do return (← r).mapError (·.at path))

/-- Writes the usual settings to the settings file of a user. -/
def init (home : Path) : ExceptT Error m Path := do
  refused (directoryOf home) (Files.makeDirectories (directoryOf home))
  let path := fileOf home
  refused path (Files.write path (Settings.text {}).toUTF8)
  return path

end Settings

end ApiReference
