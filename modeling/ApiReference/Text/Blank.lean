/-!
White space: the characters with the Unicode property White_Space, trimming at both ends of a
text, and the words of a text, which are its maximal stretches free of white space.
-/

namespace ApiReference.Text

/-- The characters with the Unicode property White_Space. -/
def isBlank (c : Char) : Bool :=
  let n := c.toNat
  (0x9 ≤ n && n ≤ 0xD) || n == 0x20 || n == 0x85 || n == 0xA0 || n == 0x1680 ||
    (0x2000 ≤ n && n ≤ 0x200A) || n == 0x2028 || n == 0x2029 || n == 0x202F || n == 0x205F ||
    n == 0x3000

def trimStart (cs : List Char) : List Char := cs.dropWhile isBlank

def trimEnd (cs : List Char) : List Char := (cs.reverse.dropWhile isBlank).reverse

def trim (cs : List Char) : List Char := trimEnd (trimStart cs)

/-- The stretches between the characters that satisfy `p`, empty stretches included: one more
than there are such characters. -/
def split (p : Char → Bool) (cs : List Char) : List (List Char) :=
  cs.foldr (fun c pieces =>
    if p c then [] :: pieces
    else match pieces with
      | [] => [[c]]
      | piece :: rest => (c :: piece) :: rest) [[]]

def words (cs : List Char) : List (List Char) := (split isBlank cs).filter (fun w => !w.isEmpty)

/-- The lines of a text: each ends at a line feed, which may have a carriage return before it,
and a line feed at the very end starts no further line. -/
def lines (cs : List Char) : List (List Char) :=
  let pieces := split (· == '\n') cs
  let ended := pieces.dropLast.map fun line =>
    if line.getLast? == some '\r' then line.dropLast else line
  match pieces.getLast? with
  | none | some [] => ended
  | some last => ended ++ [last]

def trimmed (s : String) : String := String.ofList (trim s.toList)

def equalIgnoringCase (a b : String) : Bool :=
  a.toList.map Char.toLower == b.toList.map Char.toLower

/-- The ASCII capitals of a text made small; all else is kept. -/
def asciiLower (s : String) : String := String.ofList (s.toList.map Char.toLower)

end ApiReference.Text
