import ApiReference.Files.Basic

/-!
Batches of files that are put into a directory together or not at all. Every content is first
written to a file of its own beside its target. Then the targets are replaced one by one, and
what was there is kept as a backup until all are in place.
-/

namespace ApiReference

/-- A file of a batch: its target, where its content is staged, and where what the target held
before is kept. -/
structure Staged where
  temp : Path
  target : Path
  backup : Path
  deriving DecidableEq, Inhabited

def Staged.of (directory : Path) (name : String) : Staged :=
  ⟨directory.join ("." ++ name ++ ".tmp"), directory.join name,
    directory.join ("." ++ name ++ ".bak")⟩

namespace Batch

variable {m : Type → Type} [Monad m] [Files m]

def discard : List Staged → m Unit
  | [] => return
  | f :: rest => do
    let _ ← Files.remove f.temp
    discard rest

/-- Stages the contents of files; `done` holds those staged before. -/
def stage (directory : Path) (done : List Staged) :
    List (String × String) → m (Except Error (List Staged))
  | [] => return .ok done
  | (name, content) :: rest => do
    let f := Staged.of directory name
    match ← Files.write f.temp content.toUTF8 with
    | .error fault =>
      discard done
      return .error (fault.at f.temp)
    | .ok () => stage directory (done ++ [f]) rest

def firstBlocked? : List Staged → m (Option Staged)
  | [] => return none
  | f :: rest => do
    if ← Files.isDirectory f.target then return some f else firstBlocked? rest

def saveTarget (f : Staged) : m (Except Error Unit) := do
  if ← Files.isThere f.target then
    match ← Files.rename f.target f.backup with
    | .ok () => return .ok ()
    | .error fault => return .error (fault.at f.target)
  else return .ok ()

/-- Puts a staged file in its place. If that fails, what was there before is put back. -/
def commit (f : Staged) : m (Except Error Unit) := do
  -- A backup that an interrupted run left would be taken for one of this run.
  let _ ← Files.remove f.backup
  match ← saveTarget f with
  | .error e => return .error e
  | .ok () =>
    match ← Files.rename f.temp f.target with
    | .ok () => return .ok ()
    | .error fault =>
      if ← Files.isThere f.backup then
        let _ ← Files.rename f.backup f.target
      return .error (fault.at f.target)

def rollback (f : Staged) : m Unit := do
  if ← Files.isThere f.backup then
    let _ ← Files.rename f.backup f.target
  else
    let _ ← Files.remove f.target

def rollbackAll : List Staged → m Unit
  | [] => return
  | f :: rest => do
    rollback f
    rollbackAll rest

/-- Puts staged files in their places, or none of them; `done` holds those that are in place, the
latest first. -/
def commitAll (done : List Staged) : List Staged → m (Except Error Unit)
  | [] => return .ok ()
  | f :: rest => do
    match ← commit f with
    | .ok () => commitAll (f :: done) rest
    | .error e =>
      rollbackAll done
      discard (f :: rest)
      return .error e

def dropBackups : List Staged → m Unit
  | [] => return
  | f :: rest => do
    let _ ← Files.remove f.backup
    dropBackups rest

/-- Puts files, given by name and content, into a directory: all of them, or none. The directory
is made if it is missing. -/
def write (directory : Path) (files : List (String × String)) : m (Except Error Unit) := do
  match ← Files.makeDirectories directory with
  | .error fault => return .error (fault.at directory)
  | .ok () =>
    match ← stage directory [] files with
    | .error e => return .error e
    | .ok staged =>
      match ← firstBlocked? staged with
      | some f =>
        discard staged
        return .error (FileFault.targetIsDirectory.at f.target)
      | none =>
        match ← commitAll [] staged with
        | .error e => return .error e
        | .ok () =>
          dropBackups staged
          return .ok ()

end Batch

end ApiReference
