import ApiReference.Text.Blank

/-!
Paths as texts: the parts between slashes, empty ones included, so that a path is shown exactly
as it was given.
-/

namespace ApiReference

structure Path where
  /-- The texts between the slashes: at least one, and one more than there are slashes. -/
  parts : List String
  deriving DecidableEq, Inhabited

namespace Path

def ofText (s : String) : Path := ⟨(Text.split (· == '/') s.toList).map String.ofList⟩

def text (p : Path) : String := "/".intercalate p.parts

/-- Whether a path is the empty text, which names nothing. -/
def isEmpty (p : Path) : Bool := p.parts == [""]

def isAbsolute (p : Path) : Bool :=
  match p.parts with
  | "" :: _ :: _ => true
  | _ => false

/-- The path of something below another path. An absolute path stays as it is. -/
def join (p : Path) (below : String) : Path :=
  let q := ofText below
  if q.isAbsolute || p.isEmpty then q
  else if p.parts.getLast? == some "" then ⟨p.parts.dropLast ++ q.parts⟩
  else ⟨p.parts ++ q.parts⟩

/-- The parts of a path without the slashes at its end, and whether there are any. -/
def trimSlashes (parts : List String) : List String × Bool :=
  let kept := (parts.reverse.dropWhile (·.isEmpty)).reverse
  (kept, kept.length != parts.length)

/-- Parts without those at the end that name no further step. -/
def trimStill (parts : List String) : List String :=
  (parts.reverse.dropWhile fun part => part.isEmpty || part == ".").reverse

/-- The path of the directory that a path lies in, by its text alone. -/
def parent? (p : Path) : Option Path :=
  match trimStill p.parts with
  | [] => if p.parts.head? == some "." then some ⟨[""]⟩ else none
  | steps =>
    let before := steps.dropLast
    if before.isEmpty then some ⟨[""]⟩
    else if before == [""] then some ⟨["", ""]⟩
    else some ⟨before⟩

end Path

end ApiReference
