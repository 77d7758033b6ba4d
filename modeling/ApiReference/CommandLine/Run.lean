import ApiReference.CommandLine.Request
import ApiReference.Settings.File
import ApiReference.Settings.Source
import ApiReference.Snapshot.Run

/-!
Commands at work: each reads the settings of the user, does its work and ends with lines for the
user, or fails.
-/

namespace ApiReference.CommandLine

inductive CommandFault where
  | failed (e : Error)
  /-- The page to read is no file. -/
  | noInputFile (path : Path)
  /-- The snapshot is no directory. -/
  | noSnapshotDirectory (path : Path)
  deriving DecidableEq, Inhabited

def CommandFault.message : CommandFault → String
  | .failed e => e.message
  | .noInputFile path => s!"input file '{path.text}' does not exist"
  | .noSnapshotDirectory path => s!"snapshot '{path.text}' is not a directory"

def toolVersion : String := "0.1.0"

def secondsText (tenths : Nat) : String := s!"{tenths / 10}.{tenths % 10}s"

/-- What a run tells its user at the end. -/
def summary (headline : String) (r : RunResult) (tenths : Nat) : List String :=
  let p := r.manifest.provenance
  ["", s!"  {headline}!", s!"  Types:      {p.typeCount}", s!"  Operations: {p.operationCount}",
    "  Source:     " ++ p.source, "  Path:       " ++ r.directory.text,
    "  Time:       " ++ secondsText tenths, ""]

variable {m : Type → Type} [Monad m] [Host m]

def work (x : ExceptT Error m α) : ExceptT CommandFault m α := x.adapt .failed

def timed (headline : String) (run : ExceptT Error m RunResult) :
    ExceptT CommandFault m (List String) := do
  let start ← liftM (Host.ticks : m Nat)
  let result ← work run
  return summary headline result ((← liftM (Host.ticks : m Nat)) - start)

def pageSource (s : SourceSettings) : Option Path → ExceptT CommandFault m PageSource
  | some path => do
    if ← liftM (Files.isFile path : m Bool) then return .file path else throw (.noInputFile path)
  | none => do
    return .address (← work (ExceptT.mk (pure s.address)))

/-- Runs a command for the user with a home directory. -/
def Command.run (home : Path) (report : Progress → m Unit) :
    Command → ExceptT CommandFault m (List String)
  | .generate url input out => do
    let settings ← work (Settings.load home)
    let source := { settings.source with url := url.getD settings.source.url }
    let page ← pageSource source input
    timed "Bindings generated" (Snapshot.generate report page (FetchSettings.of source)
      settings.layout settings.output (out.getD (Path.ofText settings.output.directory))
      toolVersion)
  | .regenerate snapshot out => do
    let settings ← work (Settings.load home)
    if ← liftM (Files.isDirectory snapshot : m Bool) then
      timed "Bindings regenerated"
        (Snapshot.regenerate report snapshot settings.output (out.getD snapshot) toolVersion)
    else throw (.noSnapshotDirectory snapshot)
  | .initSettings => do
    let path ← work (Settings.init home)
    return ["Config initialized at: " ++ path.text]
  | .showSettings => do
    let settings ← work (Settings.load home)
    return [settings.text]

end ApiReference.CommandLine
