import ApiReference.Text.Split
import ApiReference.Url.Ipv4

/-!
IPv6 addresses: eight pieces of sixteen bits between colons. Two colons stand for one or more
pieces that are zero, and the last two pieces may be written as an IPv4 address.
-/

namespace ApiReference.Url.Ipv6

def piece? (cs : List Char) : Option Nat :=
  if cs.isEmpty || cs.length > 4 then none else Ipv4.digits? 16 cs

/-- A byte in decimal digits, without zeros in front. -/
def byte? (cs : List Char) : Option Nat :=
  if cs.isEmpty || (cs.head? == some '0' && cs.length > 1) then none
  else (Ipv4.digits? 10 cs).filter (· < 256)

/-- The two pieces that four bytes between dots stand for. -/
def dotted? (cs : List Char) : Option (List Nat) := do
  match ← (Text.split (· == '.') cs).mapM byte? with
  | [a, b, c, d] => return [256 * a + b, 256 * c + d]
  | _ => none

/-- The pieces between colons. The last may be four bytes between dots if `dots`. -/
def pieces? (dots : Bool) : List (List Char) → Option (List Nat)
  | [] => some []
  | [last] =>
    if dots && last.contains '.' then dotted? last else (piece? last).map fun p => [p]
  | cs :: rest => do return (← piece? cs) :: (← pieces? dots rest)

def side? (dots : Bool) (cs : List Char) : Option (List Nat) :=
  if cs.isEmpty then some [] else pieces? dots (Text.split (· == ':') cs)

def ofText? (cs : List Char) : Option (List Nat) := do
  match Text.splitOn [':', ':'] cs with
  | [all] => (← pieces? true (Text.split (· == ':') all)) |> fun ps =>
    if ps.length == 8 then some ps else none
  | [left, right] =>
    let before ← side? false left
    let after ← side? true right
    if before.length + after.length ≤ 7 then
      return before ++ List.replicate (8 - before.length - after.length) 0 ++ after
    else none
  | _ => none

def zeros (ps : List Nat) : Nat := (ps.takeWhile (· == 0)).length

/-- Where the longest run of zeros starts, and its length; of equal runs the first. -/
def longestZeros : List Nat → Nat × Nat
  | [] => (0, 0)
  | p :: ps =>
    let here := zeros (p :: ps)
    let (start, length) := longestZeros ps
    if here > 0 && here ≥ length then (0, here) else (start + 1, length)

def joined (ps : List Nat) : String :=
  ":".intercalate (ps.map fun p => String.ofList (Nat.toDigits 16 p))

/-- An address as a text. Its longest run of zeros is left out if it has more than one. -/
def text (ps : List Nat) : String :=
  let (start, length) := longestZeros ps
  if length < 2 then joined ps
  else joined (ps.take start) ++ "::" ++ joined (ps.drop (start + length))

end ApiReference.Url.Ipv6
