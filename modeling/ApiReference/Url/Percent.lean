/-!
Percent codes: a character that cannot stand in a part of an address is written as the bytes of
its UTF-8 form, each as a percent sign and two digits. Characters outside ASCII never stand.
-/

namespace ApiReference.Url

def percentDigit (n : Nat) : Char := (Nat.digitChar n).toUpper

def percentCode (b : UInt8) : List Char :=
  ['%', percentDigit (b.toNat / 16), percentDigit (b.toNat % 16)]

/-- A text in which all characters are coded that `mustCode` names, and all outside ASCII. -/
def percentEncode (mustCode : Char → Bool) (cs : List Char) : List Char :=
  cs.flatMap fun c =>
    if mustCode c || c.toNat ≥ 0x80 then (String.utf8EncodeChar c).flatMap percentCode else [c]

def digitOfByte? (b : UInt8) : Option Nat :=
  let n := b.toNat
  if 0x30 ≤ n && n ≤ 0x39 then some (n - 0x30)
  else if 0x41 ≤ n && n ≤ 0x46 then some (n - 0x41 + 10)
  else if 0x61 ≤ n && n ≤ 0x66 then some (n - 0x61 + 10)
  else none

/-- The bytes that a text with percent codes stands for. A percent sign that starts no code stands
for itself. -/
def percentDecode : List UInt8 → List UInt8
  | 0x25 :: a :: b :: rest =>
    match digitOfByte? a, digitOfByte? b with
    | some x, some y => (16 * x + y).toUInt8 :: percentDecode rest
    | _, _ => 0x25 :: percentDecode (a :: b :: rest)
  | b :: rest => b :: percentDecode rest
  | [] => []

def isControl (c : Char) : Bool := c.toNat < 0x20 || c == '\x7f'

def codedInFragment (c : Char) : Bool := isControl c || " \"<>\x60".contains c

def codedInPath (c : Char) : Bool := codedInFragment c || "#?\x7b\x7d".contains c

def codedInUser (c : Char) : Bool := codedInPath c || "/:;=@[\\]^|".contains c

def codedInQuery (c : Char) : Bool := isControl c || " \"#<>'".contains c

end ApiReference.Url
