import ApiReference.Error
import ApiReference.Files.Path

/-!
What the program asks of a file system. Every request either does what it says or reports why
not; looking at what is there never fails.
-/

namespace ApiReference

inductive FileFault where
  | notFound
  | taken
  | notDirectory
  | isDirectory
  | directoryNotEmpty
  | nameTooLong
  | tooManyLinks
  | busy
  | intoItself
  | nulInName
  | notUtf8
  /-- A file is to be put where a directory is. -/
  | targetIsDirectory
  | other (text : String)
  deriving DecidableEq, Inhabited

def FileFault.message : FileFault → String
  | .notFound => "No such file or directory (os error 2)"
  | .taken => "File exists (os error 17)"
  | .notDirectory => "Not a directory (os error 20)"
  | .isDirectory => "Is a directory (os error 21)"
  | .directoryNotEmpty => "Directory not empty (os error 39)"
  | .nameTooLong => "File name too long (os error 36)"
  | .tooManyLinks => "Too many levels of symbolic links (os error 40)"
  | .busy => "Device or resource busy (os error 16)"
  | .intoItself => "Invalid argument (os error 22)"
  | .nulInName => "file name contained an unexpected NUL byte"
  | .notUtf8 => "stream did not contain valid UTF-8"
  | .targetIsDirectory => "target is a directory"
  | .other text => text

def FileFault.at (fault : FileFault) (path : Path) : Error := .io path.text fault.message

/-- A file system that computations in `m` work on. -/
class Files (m : Type → Type) where
  /-- Makes a directory and those it lies in, as far as they are missing. -/
  makeDirectories : Path → m (Except FileFault Unit)
  /-- Makes or replaces a file. -/
  write : Path → ByteArray → m (Except FileFault Unit)
  read : Path → m (Except FileFault ByteArray)
  /-- Removes a file or a link. -/
  remove : Path → m (Except FileFault Unit)
  /-- Gives a file, a link or a directory another path, where a file may be replaced. -/
  rename : Path → Path → m (Except FileFault Unit)
  isThere : Path → m Bool
  isDirectory : Path → m Bool
  isFile : Path → m Bool

namespace Files

variable {m : Type → Type} [Monad m] [Files m]

instance {σ : Type} : Files (StateT σ m) where
  makeDirectories p := StateT.lift (makeDirectories p)
  write p content := StateT.lift (write p content)
  read p := StateT.lift (read p)
  remove p := StateT.lift (remove p)
  rename p q := StateT.lift (rename p q)
  isThere p := StateT.lift (isThere p)
  isDirectory p := StateT.lift (isDirectory p)
  isFile p := StateT.lift (isFile p)

def readText (path : Path) : m (Except Error String) := do
  match ← read path with
  | .error fault => return .error (fault.at path)
  | .ok content =>
    match String.fromUTF8? content with
    | some text => return .ok text
    | none => return .error (FileFault.notUtf8.at path)

end Files

end ApiReference
