/-!
Punycode: a text as ASCII characters. Its own ASCII characters come first; the others follow as
numbers that tell, in the order of the characters, how many places further each one is inserted.
-/

namespace ApiReference.Url.Punycode

def digit (n : Nat) : Char := Char.ofNat (if n < 26 then 0x61 + n else 0x30 + (n - 26))

def value? (c : Char) : Option Nat :=
  if 'a' ≤ c && c ≤ 'z' then some (c.toNat - 0x61)
  else if 'A' ≤ c && c ≤ 'Z' then some (c.toNat - 0x41)
  else if c.isDigit then some (c.toNat - 0x30 + 26)
  else none

/-- The number from which on a digit is followed by another, for the digit of a weight. -/
def threshold (bias weight : Nat) : Nat := min 26 (max 1 (weight - bias))

theorem threshold_pos (bias weight : Nat) : 0 < threshold bias weight := by
  unfold threshold; omega

/-- A number as digits, from the digit of a weight on. -/
def digits (bias weight n : Nat) : List Char :=
  let t := threshold bias weight
  if n < t then [digit n]
  else digit (t + (n - t) % (36 - t)) :: digits bias (weight + 36) ((n - t) / (36 - t))
termination_by n
decreasing_by
  have := threshold_pos bias weight
  have := Nat.div_le_self (n - threshold bias weight) (36 - threshold bias weight)
  omega

/-- Divides until a number is small, and counts how often. -/
def flatten (n : Nat) : Nat × Nat :=
  if n > 455 then
    let (rest, steps) := flatten (n / 35)
    (rest, steps + 1)
  else (n, 0)

/-- The bias after a number, when `count` characters are in place. -/
def adapt (n count : Nat) (isFirst : Bool) : Nat :=
  let scaled := if isFirst then n / 700 else n / 2
  let (rest, steps) := flatten (scaled + scaled / count)
  36 * steps + 36 * rest / (rest + 38)

structure Writing where
  written : List Char
  distance : Nat
  bias : Nat
  count : Nat

/-- Passes a character while all characters equal to `n` are written. `basic` tells how many
characters were in place at the start. -/
def Writing.pass (basic n : Nat) (w : Writing) (c : Char) : Writing :=
  if c.toNat < n then { w with distance := w.distance + 1 }
  else if c.toNat == n then
    ⟨w.written ++ digits w.bias 36 w.distance, 0,
      adapt w.distance (w.count + 1) (w.count == basic), w.count + 1⟩
  else w

/-- Writes the characters of a text that are listed, in ascending order. All characters below
`from` are written before. -/
def writeAll (cs : List Char) (basic : Nat) : Nat → Writing → List Nat → Writing
  | _, w, [] => w
  | start, w, n :: rest =>
    -- Each number skipped passes by all the characters in place, and by the end.
    let w := { w with distance := w.distance + (n - start) * (w.count + 1) }
    let w := cs.foldl (Writing.pass basic n) w
    writeAll cs basic (n + 1) { w with distance := w.distance + 1 } rest

def foreignCodes (cs : List Char) : List Nat :=
  (((cs.map Char.toNat).filter (0x80 ≤ ·)).mergeSort (· ≤ ·)).eraseDups

def encode (cs : List Char) : List Char :=
  let basic := cs.filter (·.toNat < 0x80)
  let w := writeAll cs basic.length 0x80 ⟨[], 0, 72, basic.length⟩ (foreignCodes cs)
  basic ++ (if basic.isEmpty then [] else ['-']) ++ w.written

/-- Reads a number from its digits, from the digit of a weight on, where each unit counts
`factor`. -/
def number? (bias weight factor : Nat) : List Char → Option (Nat × List Char)
  | [] => none
  | c :: rest => do
    let v ← value? c
    let t := threshold bias weight
    if v < t then return (v * factor, rest)
    let (more, rest) ← number? bias (weight + 36) (factor * (36 - t)) rest
    return (v * factor + more, rest)

/-- Inserts the characters that numbers tell of into `cs`, the next one `place` places or more
behind the start and not below `code`; `steps` bounds how many there are. -/
def insertAll : (steps bias code place : Nat) → (cs input : List Char) → Option (List Char)
  | _, _, _, _, cs, [] => some cs
  | 0, _, _, _, _, _ => none
  | steps + 1, bias, code, place, cs, input => do
    let (n, rest) ← number? bias 36 1 input
    let count := cs.length + 1
    let next := code + (place + n) / count
    let spot := (place + n) % count
    if next.isValidChar then
      insertAll steps (adapt n count (place == 0)) next (spot + 1)
        (cs.take spot ++ Char.ofNat next :: cs.drop spot) rest
    else none

/-- The text that ASCII characters stand for. Up to the last hyphen they stand for themselves. -/
def decode? (cs : List Char) : Option (List Char) :=
  let digits := (cs.reverse.takeWhile (· != '-')).reverse
  let basic := cs.take (cs.length - digits.length - 1)
  if basic.isEmpty then insertAll cs.length 72 0x80 0 [] cs
  else if basic.all (·.toNat < 0x80) then insertAll digits.length 72 0x80 0 basic digits
  else none

end ApiReference.Url.Punycode
