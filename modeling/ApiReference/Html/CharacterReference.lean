import ApiReference.Html.ReferenceNames

/-!
Character references: `&name;`, `&#number;` and `&#xnumber;` in text and attribute values.
-/

namespace ApiReference.Html

/-- The characters that stand for the numbers 128 to 159, where older pages mean other
characters than the controls. -/
def replacedControls : List (Nat × Nat) := [
  (0x80, 0x20AC), (0x82, 0x201A), (0x83, 0x0192), (0x84, 0x201E), (0x85, 0x2026), (0x86, 0x2020),
  (0x87, 0x2021), (0x88, 0x02C6), (0x89, 0x2030), (0x8A, 0x0160), (0x8B, 0x2039), (0x8C, 0x0152),
  (0x8E, 0x017D), (0x91, 0x2018), (0x92, 0x2019), (0x93, 0x201C), (0x94, 0x201D), (0x95, 0x2022),
  (0x96, 0x2013), (0x97, 0x2014), (0x98, 0x02DC), (0x99, 0x2122), (0x9A, 0x0161), (0x9B, 0x203A),
  (0x9C, 0x0153), (0x9E, 0x017E), (0x9F, 0x0178)]

/-- The replacement character, which stands where no character can. -/
def replacement : Char := '\uFFFD'

def numberedChar (n : Nat) : Char :=
  if n == 0 || 0x10FFFF < n || (0xD800 ≤ n && n ≤ 0xDFFF) then replacement
  else Char.ofNat ((replacedControls.lookup n).getD n)

def hexValue? (c : Char) : Option Nat :=
  if c.isDigit then some (c.toNat - '0'.toNat)
  else if 'a' ≤ c && c ≤ 'f' then some (c.toNat - 'a'.toNat + 10)
  else if 'A' ≤ c && c ≤ 'F' then some (c.toNat - 'A'.toNat + 10)
  else none

def decimalValue? (c : Char) : Option Nat :=
  if c.isDigit then some (c.toNat - '0'.toNat) else none

def readNumber (digit : Char → Option Nat) (base : Nat) : Nat → List Char → Nat × List Char
  | value, [] => (value, [])
  | value, c :: cs =>
    match digit c with
    | some d => readNumber digit base (value * base + d) cs
    | none => (value, c :: cs)

def dropSemicolon : List Char → List Char
  | ';' :: cs => cs
  | cs => cs

def readNumeric? (digit : Char → Option Nat) (base : Nat) (cs : List Char) :
    Option (List Char × List Char) :=
  if (cs.head?.bind digit).isSome then
    let (value, rest) := readNumber digit base 0 cs
    some ([numberedChar value], dropSemicolon rest)
  else none

/-- The longest of the names that a text starts with, and what it stands for. -/
def longestName (names : List (String × List Nat)) (cs : List Char) :
    Option (List Char × List Nat) :=
  names.foldl (fun best entry =>
    let name := entry.1.toList
    if name.isPrefixOf cs && best.all (fun b => b.1.length < name.length) then
      some (name, entry.2)
    else best) none

/-- The characters of the reference whose text after `&` comes next, and the text after it. In an
attribute value a name without its semicolon is no reference before a letter, a digit or `=`. -/
def readReference? (inAttribute : Bool) : List Char → Option (List Char × List Char)
  | '#' :: 'x' :: cs | '#' :: 'X' :: cs => readNumeric? hexValue? 16 cs
  | '#' :: cs => readNumeric? decimalValue? 10 cs
  | c :: cs =>
    match longestName (referenceNames c) cs with
    | none => none
    | some (name, chars) =>
      let rest := cs.drop name.length
      let ended := name.getLast? == some ';'
      let goesOn := match rest with
        | [] => false
        | d :: _ => d == '=' || d.isAlphanum
      if inAttribute && !ended && goesOn then none else some (chars.map Char.ofNat, rest)
  | [] => none

/-- A text with its character references replaced; `fuel` bounds the references and characters
read. -/
def decodeFrom (inAttribute : Bool) : Nat → List Char → List Char
  | 0, cs => cs
  | _, [] => []
  | fuel + 1, '&' :: cs =>
    match readReference? inAttribute cs with
    | some (chars, rest) => chars ++ decodeFrom inAttribute fuel rest
    | none => '&' :: decodeFrom inAttribute fuel cs
  | fuel + 1, c :: cs => c :: decodeFrom inAttribute fuel cs

def decodeReferences (inAttribute : Bool) (cs : List Char) : List Char :=
  decodeFrom inAttribute cs.length cs

end ApiReference.Html
