import ApiReference.Text.Blank

/-!
Documentation comments of the generated source: prose cut into lines that start with `///` and
hold at most eighty bytes, a single long word apart.
-/

namespace ApiReference.Doc

/-- The width of a documentation line in bytes, with everything before the words. -/
def wrapWidth : Nat := 80

def byteLength (cs : List Char) : Nat := (cs.map Char.utf8Size).foldr (· + ·) 0

/-- Words put on lines of at most `width` bytes, where `current` is the line begun: a word goes
on it if it fits after one space, and opens the next line if not. -/
def fill (width : Nat) (current : List Char) : List (List Char) → List (List Char)
  | [] => [current]
  | word :: rest =>
    if current.isEmpty then fill width word rest
    else if width < byteLength current + 1 + byteLength word then current :: fill width word rest
    else fill width (current ++ ' ' :: word) rest

def commentLine (indent : List Char) (line : List Char) : List (List Char) :=
  let start := indent ++ "/// ".toList
  match Text.words line with
  | [] => [indent ++ "///".toList]
  | words => (fill (max 1 (wrapWidth - byteLength start)) [] words).map (start ++ ·)

/-- The comment lines for a text; none for a blank one. -/
def commentLines (text indent : List Char) : List (List Char) :=
  let body := Text.trim text
  if body.isEmpty then [] else (Text.lines body).flatMap (commentLine indent)

def comment (text indent : String) : List String :=
  (commentLines text.toList indent.toList).map String.ofList

/-- The comment lines for an entry: its description, then its notes, with an empty comment line
between them if both are there. -/
def entry (description notes indent : String) : List String :=
  let first := comment description indent
  if (Text.trim notes.toList).isEmpty then first
  else first ++ (if first.isEmpty then [] else [indent ++ "///"]) ++ comment notes indent

end ApiReference.Doc
