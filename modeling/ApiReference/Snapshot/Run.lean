import ApiReference.Bindings.Artifacts
import ApiReference.Page.Catalog
import ApiReference.Snapshot.Batch
import ApiReference.Snapshot.Manifest

/-!
Runs: a snapshot is generated from a page, or generated again from the dumps of a snapshot. Either
way nothing is written before everything is ready, and then all files are written as one batch.
-/

namespace ApiReference

structure FetchSettings where
  /-- How many milliseconds a fetch may take, if there is a limit. -/
  timeout : Option Nat
  userAgent : String
  sizeLimit : Nat
  deriving DecidableEq, Inhabited

/-- How the settings say that a page is fetched. Pages of more than 32 MiB are refused. -/
def FetchSettings.of (s : SourceSettings) : FetchSettings :=
  ⟨s.timeoutSeconds.map (1000 * ·), s.userAgent, 32 * 1024 * 1024⟩

/-- The surroundings of a run: files, a clock, and pages elsewhere. -/
class Host (m : Type → Type) extends Files m where
  now : m Timestamp
  /-- Tenths of seconds since some moment. -/
  ticks : m Nat
  fetch : String → FetchSettings → m (Except Error String)

inductive PageSource where
  | file (path : Path)
  | address (url : String)
  deriving DecidableEq, Inhabited

/-- The text that a manifest names a source by. -/
def PageSource.text : PageSource → String
  | .file path => path.text
  | .address url => url

/-- A step of a run, as its user is told of it. -/
inductive Progress where
  | reading
  | scraping
  | loading
  | rendering
  | writing
  | done (types operations : Nat)
  deriving DecidableEq, Inhabited

def Progress.text : Progress → String
  | .reading => "Reading reference page"
  | .scraping => "Scraping entries"
  | .loading => "Loading snapshot"
  | .rendering => "Rendering artifacts"
  | .writing => "Writing artifacts"
  | .done types operations => s!"Done: {types} types and {operations} operations"

structure RunResult where
  directory : Path
  manifest : Manifest
  deriving DecidableEq, Inhabited

def catalogOfMarkup (s : LayoutSettings) (markup : String) : Except Error Catalog :=
  (Page.catalog s (Html.Document.parse markup).root).mapError PageFault.toError

/-- The names and the contents of the files made from a catalog, in the order of the manifest. -/
def Artifacts.files (a : Artifacts) (s : OutputSettings) : List (String × String) :=
  [(s.typesDump, a.typesDump), (s.operationsDump, a.operationsDump), (s.modelsFile, a.models),
    (s.bindingsFile, a.bindings)]

namespace Snapshot

variable {m : Type → Type} [Monad m]

def load [Files m] (directory : Path) (s : OutputSettings) : ExceptT Error m Catalog := do
  let types ← ExceptT.mk (Files.readText (directory.join s.typesDump))
  let operations ← ExceptT.mk (Files.readText (directory.join s.operationsDump))
  ExceptT.mk (pure (Catalog.ofDumps types operations))

def readManifest [Files m] (path : Path) : ExceptT Error m Manifest := do
  let text ← ExceptT.mk (Files.readText path)
  ExceptT.mk (pure (Manifest.ofText path.text text))

/-- Writes the files made from a catalog, and their manifest, into a directory. -/
def write [Host m] (directory : Path) (s : OutputSettings) (c : Catalog) (p : Provenance) :
    ExceptT Error m RunResult := do
  let files := (c.artifacts s).files s
  let records := files.map fun (name, content) => FileRecord.of name content
  let manifest := Manifest.of p (← liftM (Host.now : m Timestamp)) records
  ExceptT.mk (Batch.write directory (files ++ [(s.manifestFile, manifest.text)]))
  return ⟨directory, manifest⟩

def readPage [Host m] (source : PageSource) (f : FetchSettings) : ExceptT Error m String :=
  ExceptT.mk (match source with
    | .file path => Files.readText path
    | .address url => Host.fetch url f)

/-- Generates a snapshot from a page. `report` is told of each step. -/
def generate [Host m] (report : Progress → m Unit) (source : PageSource) (f : FetchSettings)
    (layout : LayoutSettings) (s : OutputSettings) (directory : Path) (toolVersion : String) :
    ExceptT Error m RunResult := do
  report .reading
  let markup ← readPage source f
  report .scraping
  let c ← ExceptT.mk (pure (catalogOfMarkup layout markup))
  report .rendering
  report .writing
  let result ← write directory s c ⟨source.text, toolVersion,
    some (Sha256.digest markup.toUTF8), c.types.length, c.operations.length⟩
  report (.done c.types.length c.operations.length)
  return result

/-- Generates a snapshot again from the dumps of one. Where the page came from is carried over
from the manifest of that snapshot, if it has one. -/
def regenerate [Host m] (report : Progress → m Unit) (snapshot : Path) (s : OutputSettings)
    (directory : Path) (toolVersion : String) : ExceptT Error m RunResult := do
  report .loading
  let c ← load snapshot s
  -- Running the reader by itself keeps its failure from ending the whole run.
  let earlier ← liftM (readManifest (snapshot.join s.manifestFile) : ExceptT Error m Manifest).run
  report .rendering
  report .writing
  let (source, inputSha256) := match earlier with
    | .ok manifest => (manifest.provenance.source, manifest.provenance.inputSha256)
    | .error _ => (snapshot.text, none)
  let result ← write directory s c ⟨source, toolVersion, inputSha256, c.types.length,
    c.operations.length⟩
  report (.done c.types.length c.operations.length)
  return result

end Snapshot

end ApiReference
