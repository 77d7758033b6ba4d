import ApiReference.Text.Blank
import ApiReference.Text.Split

/-!
Points in time, to the nanosecond, as date and time of day in UTC. `Timestamp.text` writes one as
`2024-01-02T03:04:05.120Z`; `Timestamp.ofText?` also reads other offsets, numbers without leading
noughts, and white space between the parts. A minute may have a sixty-first second.
-/

namespace ApiReference

def isLeapYear (year : Int) : Bool := year % 4 == 0 && (year % 100 != 0 || year % 400 == 0)

def daysOfMonth (year : Int) (month : Nat) : Nat :=
  if month == 2 then if isLeapYear year then 29 else 28
  else if month == 4 || month == 6 || month == 9 || month == 11 then 30
  else 31

def isPointInTime (year : Int) (month day hour minute second nano : Nat) : Bool :=
  -262143 ≤ year && year ≤ 262142 && 1 ≤ month && month ≤ 12 && 1 ≤ day &&
    day ≤ daysOfMonth year month && hour < 24 && minute < 60 && second ≤ 60 && nano < 1000000000

structure Timestamp where
  year : Int
  month : Nat
  day : Nat
  hour : Nat
  minute : Nat
  second : Nat
  nano : Nat
  valid : isPointInTime year month day hour minute second nano = true
  deriving DecidableEq

namespace Timestamp

instance : Inhabited Timestamp := ⟨⟨1970, 1, 1, 0, 0, 0, 0, by decide⟩⟩

def ofFields? (year : Int) (month day hour minute second nano : Nat) : Option Timestamp :=
  if h : isPointInTime year month day hour minute second nano then
    some ⟨year, month, day, hour, minute, second, nano, h⟩
  else none

/-- A number in at least `width` decimal digits. -/
def padded (width n : Nat) : List Char :=
  let digits := Nat.toDigits 10 n
  List.replicate (width - digits.length) '0' ++ digits

/-- A year: four digits, with a sign before it outside of the years 0 to 9999. -/
def yearText (year : Int) : List Char :=
  if 0 ≤ year && year ≤ 9999 then padded 4 year.toNat
  else (if year < 0 then '-' else '+') :: padded 4 year.natAbs

/-- A fraction of a second in as few digits of three, six or nine as it needs. -/
def fractionText (nano : Nat) : List Char :=
  if nano == 0 then []
  else if nano % 1000000 == 0 then '.' :: padded 3 (nano / 1000000)
  else if nano % 1000 == 0 then '.' :: padded 6 (nano / 1000)
  else '.' :: padded 9 nano

def text (t : Timestamp) : String :=
  String.ofList (yearText t.year ++ '-' :: padded 2 t.month ++ '-' :: padded 2 t.day ++
    'T' :: padded 2 t.hour ++ ':' :: padded 2 t.minute ++ ':' :: padded 2 t.second ++
    fractionText t.nano ++ ['Z'])

/-- Reads a number of one to `width` digits, after white space. -/
def readDigits (width : Nat) (cs : List Char) : Option (Nat × List Char) :=
  let cs := Text.trimStart cs
  let digits := (cs.take width).takeWhile Char.isDigit
  if digits.isEmpty then none
  else some (digits.foldl (fun n c => 10 * n + (c.toNat - '0'.toNat)) 0, cs.drop digits.length)

/-- Reads a year; one with a sign may have any number of digits. -/
def readYear (cs : List Char) : Option (Int × List Char) :=
  match Text.trimStart cs with
  | '-' :: rest =>
    if rest.head?.any Char.isDigit then
      (readDigits rest.length rest).map fun (n, after) => (-(n : Int), after)
    else none
  | '+' :: rest =>
    if rest.head?.any Char.isDigit then
      (readDigits rest.length rest).map fun (n, after) => ((n : Int), after)
    else none
  | rest => (readDigits 4 rest).map fun (n, after) => ((n : Int), after)

def readMark (mark : Char) (cs : List Char) : Option (List Char) :=
  match Text.trimStart cs with
  | c :: rest => if c == mark then some rest else none
  | [] => none

/-- Reads a fraction of a second, if there is one. Digits after the ninth do not count. -/
def readFraction : List Char → Option (Nat × List Char)
  | '.' :: cs =>
    let digits := cs.takeWhile Char.isDigit
    let kept := digits.take 9
    if digits.isEmpty then none
    else
      let n := kept.foldl (fun n c => 10 * n + (c.toNat - '0'.toNat)) 0
      some (n * Nat.pow 10 (9 - kept.length), cs.drop digits.length)
  | cs => some (0, cs)

def twoDigits : List Char → Option (Nat × List Char)
  | a :: b :: rest =>
    if a.isDigit && b.isDigit then
      some (10 * (a.toNat - '0'.toNat) + (b.toNat - '0'.toNat), rest)
    else none
  | _ => none

/-- Reads an offset from UTC, in minutes: `Z`, `UTC`, or hours and minutes with a sign. -/
def readOffset (cs : List Char) : Option (Int × List Char) :=
  if (cs.take 3).map Char.toLower == ['u', 't', 'c'] then some (0, cs.drop 3)
  else match cs with
    | c :: rest =>
      if c == 'Z' || c == 'z' then some (0, rest)
      else if c == '+' || c == '-' || c == '\u2212' then do
        let (hours, rest) ← twoDigits rest
        let (minutes, rest) ← twoDigits (rest.dropWhile fun c => c == ':' || Text.isBlank c)
        let offset : Int := 60 * hours + minutes
        if minutes < 60 && hours < 24 then
          some (if c == '+' then offset else -offset, rest)
        else none
      else none
    | [] => none

/-- The day after or before a date, or the date itself, for a step of one, minus one or nought. -/
def stepDay (year : Int) (month day : Nat) (step : Int) : Int × Nat × Nat :=
  if step > 0 then
    if day < daysOfMonth year month then (year, month, day + 1)
    else if month < 12 then (year, month + 1, 1)
    else (year + 1, 1, 1)
  else if step < 0 then
    if 1 < day then (year, month, day - 1)
    else if 1 < month then (year, month - 1, daysOfMonth year (month - 1))
    else (year - 1, 12, 31)
  else (year, month, day)

/-- The point in time at which clocks with an offset in minutes show another one. -/
def shift (t : Timestamp) (offset : Int) : Option Timestamp :=
  let total : Int := 60 * t.hour + t.minute - offset
  -- An offset is less than a day, so the quotient is one of -1, 0 and 1.
  let (year, month, day) := stepDay t.year t.month t.day (total / 1440)
  let left := (total % 1440).toNat
  ofFields? year month day (left / 60) (left % 60) t.second t.nano

def ofText? (text : String) : Option Timestamp := do
  let (year, rest) ← readYear text.toList
  let (month, rest) ← readDigits 2 (← readMark '-' rest)
  let (day, rest) ← readDigits 2 (← readMark '-' rest)
  let rest ← match rest with
    | c :: rest => if c == 'T' || c == 't' || c == ' ' then some rest else none
    | [] => none
  let (hour, rest) ← readDigits 2 rest
  let (minute, rest) ← readDigits 2 (← readMark ':' rest)
  let (second, rest) ← readDigits 2 (← readMark ':' rest)
  let (nano, rest) ← readFraction rest
  let (offset, rest) ← readOffset (Text.trimStart rest)
  let shown ← ofFields? year month day hour minute second nano
  if (Text.trimStart rest).isEmpty then shown.shift offset else none

end Timestamp

end ApiReference
