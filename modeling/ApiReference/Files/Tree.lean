import ApiReference.Files.Basic

/-!
A file system held in memory: what is where, and the directory that paths start at. Links are
followed as they are met on the way, at most forty of them.
-/

namespace ApiReference

/-- A place: the names on the way down from the root. -/
abbrev Place := List String

inductive FileEntry where
  | directory
  | file (content : ByteArray)
  | link (target : Path)
  deriving Inhabited

def FileEntry.isDirectory : FileEntry → Bool
  | .directory => true
  | _ => false

/-- A file system held in memory. The root is always there. -/
structure FileTree where
  /-- Each place once. -/
  entries : List (Place × FileEntry)
  /-- The directory that paths start at. -/
  working : Place
  deriving Inhabited

namespace FileTree

def entryAt (t : FileTree) (place : Place) : Option FileEntry :=
  if place.isEmpty then some .directory else t.entries.lookup place

def set (t : FileTree) (place : Place) (e : FileEntry) : FileTree :=
  { t with entries := (place, e) :: t.entries.filter fun (p, _) => p != place }

def erase (t : FileTree) (place : Place) : FileTree :=
  { t with entries := t.entries.filter fun (p, _) => p != place }

def hasChildren (t : FileTree) (place : Place) : Bool :=
  t.entries.any fun (p, _) => place.isPrefixOf p && p != place

/-- A file system in which a place and all below it have moved. -/
def move (t : FileTree) (source target : Place) : FileTree :=
  { t with
    entries := (t.entries.filter fun (p, _) => p != target).map fun (p, e) =>
      if source.isPrefixOf p then (target ++ p.drop source.length, e) else (p, e) }

def nameLimit : Nat := 255

/-- The length in bytes that paths stay below. -/
def pathLimit : Nat := 4096

def linkLimit : Nat := 40

/-- The place that steps lead to from a directory. Nothing needs to be at the end of the last
step if `mayBeMissing`. `links` more links may be followed. -/
def walk (t : FileTree) (mayBeMissing : Bool) (links : Nat) (here : Place) (steps : List String) :
    Except FileFault Place :=
  match steps with
  | [] => .ok here
  | step :: rest =>
    if step.isEmpty || step == "." then t.walk mayBeMissing links here rest
    else if step == ".." then t.walk mayBeMissing links here.dropLast rest
    else if step.utf8ByteSize > nameLimit then .error .nameTooLong
    else
      let next := here ++ [step]
      match t.entryAt next with
      | none => if mayBeMissing && rest.isEmpty then .ok next else .error .notFound
      | some .directory => t.walk mayBeMissing links next rest
      | some (.file _) => if rest.isEmpty then .ok next else .error .notDirectory
      | some (.link target) =>
        match links with
        | 0 => .error .tooManyLinks
        -- The target is read from the directory that the link lies in.
        | links + 1 =>
          t.walk mayBeMissing links (if target.isAbsolute then [] else here) (target.parts ++ rest)
termination_by (links, steps.length)

/-- Why a path names nothing, whatever the file system holds. -/
def pathFault? (p : Path) : Option FileFault :=
  if p.text.toList.contains '\x00' then some .nulInName
  else if p.isEmpty then some .notFound
  else if p.text.utf8ByteSize ≥ pathLimit then some .nameTooLong
  else none

def locate (t : FileTree) (mayBeMissing : Bool) (p : Path) : Except FileFault Place :=
  match pathFault? p with
  | some fault => .error fault
  | none => t.walk mayBeMissing linkLimit (if p.isAbsolute then [] else t.working) p.parts

def find (t : FileTree) (p : Path) : Except FileFault FileEntry := do
  let place ← t.locate false p
  match t.entryAt place with
  | some e => return e
  | none => throw .notFound

/-- The directory that a path lies in, its last name, and whether slashes follow that. The last
name is not followed if it is a link. -/
structure LastStep where
  directory : Place
  name : String
  slashes : Bool

/-- Finds the directory that a path lies in. The root lies in none: `atRoot` is the fault then. -/
def lastStep (t : FileTree) (atRoot : FileFault) (p : Path) : Except FileFault LastStep := do
  match pathFault? p with
  | some fault => throw fault
  | none =>
    let (steps, slashes) := Path.trimSlashes p.parts
    match steps.getLast? with
    | none => throw atRoot
    | some name =>
      -- The dot asks of the last step, too, that it leads to a directory.
      let directory ← t.walk false linkLimit (if p.isAbsolute then [] else t.working)
        (steps.dropLast ++ ["."])
      return ⟨directory, name, slashes⟩

def LastStep.isDots (s : LastStep) : Bool := s.name == "." || s.name == ".."

def LastStep.place (s : LastStep) : Place := s.directory ++ [s.name]

def LastStep.checkName (s : LastStep) : Except FileFault Unit :=
  if s.name.utf8ByteSize > nameLimit then .error .nameTooLong else .ok ()

def makeDirectory (t : FileTree) (p : Path) : Except FileFault FileTree := do
  let s ← t.lastStep .taken p
  if s.isDots then throw .taken
  s.checkName
  match t.entryAt s.place with
  | some _ => throw .taken
  | none => return t.set s.place .directory

def isDirectory (t : FileTree) (p : Path) : Bool :=
  match t.find p with
  | .ok .directory => true
  | _ => false

/-- Makes a directory. If what it lies in is missing, that is made first; `depth` bounds how
often. -/
def makeDirectoriesUpTo : Nat → FileTree → Path → FileTree × Except FileFault Unit
  | 0, t, _ => (t, .error .notFound)
  | depth + 1, t, p =>
    if p.isEmpty then (t, .ok ())
    else match t.makeDirectory p with
      | .ok made => (made, .ok ())
      | .error .notFound =>
        match p.parent? with
        | none => (t, .error .notFound)
        | some around =>
          match makeDirectoriesUpTo depth t around with
          | (t, .error fault) => (t, .error fault)
          | (t, .ok ()) =>
            -- The way to `p` may pass through `p` itself, and is then made with it.
            match t.makeDirectory p with
            | .ok made => (made, .ok ())
            | .error fault => (t, if t.isDirectory p then .ok () else .error fault)
      | .error fault => (t, if t.isDirectory p then .ok () else .error fault)

def makeDirectories (p : Path) (t : FileTree) : Except FileFault Unit × FileTree :=
  (makeDirectoriesUpTo (p.parts.length + 1) t p).swap

def write (p : Path) (content : ByteArray) (t : FileTree) : Except FileFault Unit × FileTree :=
  match t.locate true p with
  | .error fault => (.error fault, t)
  | .ok place =>
    if (t.entryAt place).any FileEntry.isDirectory then (.error .isDirectory, t)
    else (.ok (), t.set place (.file content))

def read (p : Path) (t : FileTree) : Except FileFault ByteArray :=
  match t.find p with
  | .error fault => .error fault
  | .ok (.file content) => .ok content
  | .ok _ => .error .isDirectory

/-- The file system without a file or a link. -/
def removed (t : FileTree) (p : Path) : Except FileFault FileTree := do
  let s ← t.lastStep .isDirectory p
  if s.isDots then throw .isDirectory
  s.checkName
  match t.entryAt s.place with
  | none => throw .notFound
  | some .directory => throw .isDirectory
  | some _ => if s.slashes then throw .notDirectory else return t.erase s.place

def linked (target p : Path) (t : FileTree) : Except FileFault FileTree := do
  if target.isEmpty then throw .notFound
  let s ← t.lastStep .taken p
  if s.isDots then throw .taken
  s.checkName
  match t.entryAt s.place with
  | some _ => throw .taken
  | none => if s.slashes then throw .notFound else return t.set s.place (.link target)

/-- The file system with a file, a link or a directory at another path. A file replaces files and
links, and a directory replaces empty directories. -/
def renamed (t : FileTree) (p q : Path) : Except FileFault FileTree := do
  let source ← t.lastStep .busy p
  let target ← t.lastStep .busy q
  if source.isDots || target.isDots then throw .busy
  source.checkName
  match t.entryAt source.place with
  | none => throw .notFound
  | some .directory =>
    target.checkName
    if source.place == target.place then return t
    if source.place.isPrefixOf target.place then throw .intoItself
    match t.entryAt target.place with
    | none => return t.move source.place target.place
    | some .directory =>
      if t.hasChildren target.place then throw .directoryNotEmpty
      else return t.move source.place target.place
    | some _ => throw .notDirectory
  | some e =>
    target.checkName
    if source.slashes || target.slashes then throw .notDirectory
    if source.place == target.place then return t
    match t.entryAt target.place with
    | some .directory =>
      throw (if target.place.isPrefixOf source.place then .directoryNotEmpty else .isDirectory)
    | _ => return (t.erase source.place).set target.place e

/-- Changes a file system, or leaves it as it is and reports why. -/
def change (f : FileTree → Except FileFault FileTree) (t : FileTree) :
    Except FileFault Unit × FileTree :=
  match f t with
  | .ok changed => (.ok (), changed)
  | .error fault => (.error fault, t)

instance : Files (StateM FileTree) where
  makeDirectories p := modifyGet (makeDirectories p)
  write p content := modifyGet (write p content)
  read p := do return read p (← get)
  remove p := modifyGet (change (·.removed p))
  rename p q := modifyGet (change (·.renamed p q))
  isThere p := do return (find (← get) p).toBool
  isDirectory p := do return isDirectory (← get) p
  isFile p := do return match find (← get) p with
    | .ok (.file _) => true
    | _ => false

/-- The paths of all that is below the working directory, from there on, in the order of their
texts. Directories end in a slash. -/
def listing (t : FileTree) : List String :=
  let paths := t.entries.filterMap fun (place, e) =>
    if t.working.isPrefixOf place && place != t.working then
      let text := "/".intercalate (place.drop t.working.length)
      some (if e.isDirectory then text ++ "/" else text)
    else none
  paths.mergeSort fun a b => decide (a ≤ b)

end FileTree

end ApiReference
