import Std.Time.DateTime.Timestamp
import ApiReference.CommandLine.Run
import ApiReference.Snapshot.Clock

/-!
The program: commands at work on the files and the clock of a machine.
-/

namespace ApiReference.Terminal

def faultOf : IO.Error → FileFault
  | .noFileOrDirectory .. | .noSuchThing .. => .notFound
  | .alreadyExists .. => .taken
  | e => .other (toString e)

def request (x : IO α) : IO (Except FileFault α) := do
  try
    return .ok (← x)
  catch e =>
    return .error (faultOf e)

def leadsSomewhere (path : String) : IO Bool := do
  try
    let _ ← IO.FS.realPath path
    return true
  catch _ =>
    return false

/-- The path of a directory itself, by which no file is found. -/
def asDirectory (p : Path) : String := p.text ++ "/."

instance : Host IO where
  makeDirectories p := request (if p.isEmpty then pure () else IO.FS.createDirAll p.text)
  write p content := request (IO.FS.writeBinFile p.text content)
  read p := request (IO.FS.readBinFile p.text)
  remove p := request (IO.FS.removeFile p.text)
  rename p q := request (IO.FS.rename p.text q.text)
  isThere p := if p.isEmpty then return false else leadsSomewhere p.text
  isDirectory p := if p.isEmpty then return false else leadsSomewhere (asDirectory p)
  isFile p := do
    if p.isEmpty then return false
    return (← leadsSomewhere p.text) && !(← leadsSomewhere (asDirectory p))
  now := do
    let t ← Std.Time.Timestamp.now
    return (Timestamp.ofClock? t.toNanosecondsSinceUnixEpoch.val).getD default
  ticks := do return (← IO.monoMsNow) / 100
  fetch url _ := return .error (.network s!"pages cannot be fetched here: {url}")

def tell (p : Progress) : IO Unit := IO.eprintln p.text

/-- Tells the user that arguments are no request. Help and the version were asked for. -/
def refuse (fault : CommandLine.UsageFault) : IO UInt32 :=
  match fault with
  | .helpWanted | .versionWanted => do
    IO.println fault.message
    return 0
  | _ => do
    IO.eprintln fault.message
    return 2

def fail (message : String) : IO UInt32 := do
  IO.eprintln ("Error: " ++ message)
  return 1

end ApiReference.Terminal

open ApiReference ApiReference.Terminal in
def main (args : List String) : IO UInt32 := do
  match CommandLine.Request.ofArguments args with
  | .error fault => refuse fault
  | .ok r =>
    match ← IO.getEnv "HOME" with
    | none => fail (Error.config "could not determine home directory").message
    | some home =>
      match ← (r.command.run (Path.ofText home) tell).run with
      | .error fault => fail fault.message
      | .ok lines =>
        lines.forM IO.println
        return 0
