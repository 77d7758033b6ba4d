import ApiReference.Text.Blank

/-!
IPv4 addresses: up to four numbers between dots, each decimal, octal after a zero or hexadecimal
after 0x. The last number fills all bytes that the others leave.
-/

namespace ApiReference.Url.Ipv4

def digit? (radix : Nat) (c : Char) : Option Nat :=
  let n := c.toNat
  let value :=
    if c.isDigit then n - 0x30
    else if 'a' ≤ c && c ≤ 'f' then n - 0x61 + 10
    else if 'A' ≤ c && c ≤ 'F' then n - 0x41 + 10
    else radix
  if value < radix then some value else none

/-- The value of digits to a radix. No digits stand for zero. -/
def digits? (radix : Nat) (cs : List Char) : Option Nat :=
  cs.foldlM (fun n c => (digit? radix c).map (radix * n + ·)) 0

def number? : List Char → Option Nat
  | [] => none
  | '0' :: 'x' :: cs | '0' :: 'X' :: cs => digits? 16 cs
  | ['0'] => some 0
  | '0' :: cs => digits? 8 cs
  | cs => digits? 10 cs

/-- The parts of a domain, without an empty one at the end. -/
def parts (cs : List Char) : List (List Char) :=
  let ps := Text.split (· == '.') cs
  if ps.getLast? == some [] then ps.dropLast else ps

/-- Whether a domain is taken as an IPv4 address: its last part is a number, or consists of
digits. -/
def isMeant (cs : List Char) : Bool :=
  match (parts cs).getLast? with
  | some last => (!last.isEmpty && last.all Char.isDigit) || (number? last).isSome
  | none => false

/-- The address made of the numbers between its dots. -/
def ofNumbers? (ns : List Nat) : Option Nat :=
  match ns.getLast? with
  | none => none
  | some last =>
    let before := ns.dropLast
    if before.length ≤ 3 && before.all (· < 256) && last < Nat.pow 256 (4 - before.length) then
      some (before.foldl (fun n b => 256 * n + b) 0 * Nat.pow 256 (4 - before.length) + last)
    else none

def ofText? (cs : List Char) : Option Nat := do
  ofNumbers? (← (parts cs).mapM number?)

def text (n : Nat) : String :=
  ".".intercalate ([16777216, 65536, 256, 1].map fun unit => toString (n / unit % 256))

end ApiReference.Url.Ipv4
