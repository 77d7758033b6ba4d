import ApiReference.Text.Blank

/-!
The scalars of TOML: strings in four notations, integers, and floats and dates, of which only
that they are written correctly matters here. Each is read at the start of a text, and the rest
of the text is given back.
-/

namespace ApiReference.Toml

inductive Value where
  | text (s : String)
  | integer (n : Int)
  | bool (b : Bool)
  /-- A float or a date. -/
  | other
  | list (items : List Value)
  | table (entries : List (String × Value))
  deriving Inhabited

def isSpace (c : Char) : Bool := c == ' ' || c == '\t'

def skipSpace (cs : List Char) : List Char := cs.dropWhile isSpace

/-- Whether a character may stand in a comment: any but control characters, tabs excepted. -/
def isPlain (c : Char) : Bool := c == '\t' || (0x20 ≤ c.toNat && c.toNat != 0x7F)

def hexValue? (c : Char) : Option Nat :=
  if c.isDigit then some (c.toNat - '0'.toNat)
  else if 'a' ≤ c && c ≤ 'f' then some (c.toNat - 'a'.toNat + 10)
  else if 'A' ≤ c && c ≤ 'F' then some (c.toNat - 'A'.toNat + 10)
  else none

/-- The character whose number the first `count` characters give in hexadecimal digits. -/
def hexChar? (count : Nat) (cs : List Char) : Option Char := do
  let digits ← (cs.take count).mapM hexValue?
  let n := digits.foldl (fun n d => 16 * n + d) 0
  if digits.length == count && (n < 0xD800 || (0xDFFF < n && n < 0x110000)) then
    some (Char.ofNat n)
  else none

/-- The character that an escape stands for, and how many characters it takes after the
backslash. -/
def escape? : List Char → Option (Char × Nat)
  | 'b' :: _ => some ('\x08', 1)
  | 't' :: _ => some ('\t', 1)
  | 'n' :: _ => some ('\n', 1)
  | 'f' :: _ => some ('\x0C', 1)
  | 'r' :: _ => some ('\r', 1)
  | '"' :: _ => some ('"', 1)
  | '\\' :: _ => some ('\\', 1)
  | 'u' :: cs => (hexChar? 4 cs).map fun c => (c, 5)
  | 'U' :: cs => (hexChar? 8 cs).map fun c => (c, 9)
  | _ => none

/-- A text and what comes after it, with one more character in front of the text. -/
def consTo (c : Char) (read : Option (List Char × List Char)) : Option (List Char × List Char) :=
  read.map fun (text, after) => (c :: text, after)

/-- The rest of a string in double quotes, after `skip` characters of an escape. -/
def basicBody : Nat → List Char → Option (List Char × List Char)
  | _, [] => none
  | skip + 1, _ :: cs => basicBody skip cs
  | 0, c :: cs =>
    if c == '"' then some ([], cs)
    else if c == '\\' then
      match escape? cs with
      | some (x, count) => consTo x (basicBody count cs)
      | none => none
    else if isPlain c then consTo c (basicBody 0 cs)
    else none

def literalBody : List Char → Option (List Char × List Char)
  | [] => none
  | c :: cs =>
    if c == '\'' then some ([], cs)
    else if isPlain c then consTo c (literalBody cs)
    else none

def blankCount : List Char → Nat
  | '\r' :: '\n' :: cs => blankCount cs + 2
  | c :: cs => if isSpace c || c == '\n' then blankCount cs + 1 else 0
  | [] => 0

def atLineEnd : List Char → Bool
  | '\n' :: _ | '\r' :: '\n' :: _ => true
  | _ => false

/-- The number of quotes at the start of a text, five at most. -/
def quoteCount (quote : Char) (cs : List Char) : Nat := ((cs.take 5).takeWhile (· == quote)).length

/-- The rest of a string in triple quotes. Up to two quotes may stand right before those that
close it. In double quotes there are escapes, and a backslash at the end of a line takes the
white space that follows out of the string. -/
def longBody (quote : Char) : Nat → List Char → Option (List Char × List Char)
  | _, [] => none
  | skip + 1, _ :: cs => longBody quote skip cs
  | 0, c :: cs =>
    let quotes := quoteCount quote (c :: cs)
    if 3 ≤ quotes then some (List.replicate (quotes - 3) quote, cs.drop (quotes - 1))
    else if c == '\\' && quote == '"' then
      if atLineEnd (skipSpace cs) then longBody quote (blankCount cs) cs
      else match escape? cs with
        | some (x, count) => consTo x (longBody quote count cs)
        | none => none
    else if c == '\r' && cs.head? == some '\n' then longBody quote 0 cs
    else if c == '\n' || isPlain c then consTo c (longBody quote 0 cs)
    else none

def dropLineEnd : List Char → List Char
  | '\n' :: cs => cs
  | '\r' :: '\n' :: cs => cs
  | cs => cs

def readText : List Char → Option (String × List Char)
  | '"' :: '"' :: '"' :: cs =>
    (longBody '"' 0 (dropLineEnd cs)).map fun (t, after) => (String.ofList t, after)
  | '\'' :: '\'' :: '\'' :: cs =>
    (longBody '\'' 0 (dropLineEnd cs)).map fun (t, after) => (String.ofList t, after)
  | '"' :: cs => (basicBody 0 cs).map fun (t, after) => (String.ofList t, after)
  | '\'' :: cs => (literalBody cs).map fun (t, after) => (String.ofList t, after)
  | _ => none

/-- The digits at the start of a text, among which there may be single underscores, and the
rest. `after` says whether a digit came right before. -/
def spanDigits (isDigit : Char → Bool) (after : Bool) : List Char → List Char × List Char
  | [] => ([], [])
  | c :: cs =>
    if isDigit c then
      let (digits, rest) := spanDigits isDigit true cs
      (c :: digits, rest)
    else if after && c == '_' && cs.head?.any isDigit then spanDigits isDigit false cs
    else ([], c :: cs)

def readDigits (isDigit : Char → Bool) (cs : List Char) : Option (List Char × List Char) :=
  let (digits, rest) := spanDigits isDigit false cs
  if digits.isEmpty then none else some (digits, rest)

def ofDigits (base : Nat) (digits : List Char) : Nat :=
  digits.foldl (fun n c => base * n + (hexValue? c).getD 0) 0

/-- A decimal integer: whether it has a minus sign, its digits, and the rest. Only the number
nought starts with the digit nought. -/
def readDecimal (cs : List Char) : Option (Bool × List Char × List Char) :=
  let unsigned := if cs.head? == some '-' || cs.head? == some '+' then cs.drop 1 else cs
  let negative := cs.head? == some '-'
  match unsigned with
  | '0' :: rest => some (negative, ['0'], rest)
  | _ => (readDigits Char.isDigit unsigned).map fun (digits, rest) => (negative, digits, rest)

def integerBound : Int := 9223372036854775808

def fitting (n : Int) : Option Value :=
  if -integerBound ≤ n && n < integerBound then some (.integer n) else none

def readInteger (cs : List Char) : Option (Value × List Char) := do
  let inBase (base : Nat) (isDigit : Char → Bool) (rest : List Char) :
      Option (Value × List Char) := do
    let (digits, after) ← readDigits isDigit rest
    return (← fitting (ofDigits base digits), after)
  match cs with
  | '0' :: 'x' :: rest => inBase 16 (fun c => (hexValue? c).isSome) rest
  | '0' :: 'o' :: rest => inBase 8 (fun c => '0' ≤ c && c ≤ '7') rest
  | '0' :: 'b' :: rest => inBase 2 (fun c => c == '0' || c == '1') rest
  | _ =>
    let (negative, digits, after) ← readDecimal cs
    let n : Int := ofDigits 10 digits
    return (← fitting (if negative then -n else n), after)

def readExponent : List Char → Option (Int × List Char)
  | e :: cs =>
    if e == 'e' || e == 'E' then
      let unsigned := if cs.head? == some '-' || cs.head? == some '+' then cs.drop 1 else cs
      (readDigits Char.isDigit unsigned).map fun (digits, rest) =>
        let n : Int := ofDigits 10 digits
        (if cs.head? == some '-' then -n else n, rest)
    else none
  | [] => none

/-- Whether a number of some digits times a power of ten is within the range of floats of 64
bits. -/
def isFloat (digits : List Char) (power : Int) : Bool :=
  let n := ofDigits 10 digits
  let limit := Nat.pow 2 1024 - Nat.pow 2 970
  if n == 0 || power + digits.length < 300 then true
  else if 400 < power + (digits.dropWhile (· == '0')).length then false
  else if 0 ≤ power then n * Nat.pow 10 power.toNat < limit
  else n < limit * Nat.pow 10 (-power).toNat

def readFloat (cs : List Char) : Option (Value × List Char) := do
  let (_, whole, rest) ← readDecimal cs
  let (digits, fraction, rest) ← match rest with
    | '.' :: rest => do
      let (digits, rest) ← readDigits Char.isDigit rest
      pure (whole ++ digits, digits.length, rest)
    | _ => if (readExponent rest).isSome then pure (whole, 0, rest) else none
  let (power, rest) := (readExponent rest).getD (0, rest)
  if isFloat digits (power - fraction) then return (.other, rest) else none

/-- Reads an infinity or what is no number. -/
def readSpecial (cs : List Char) : Option (Value × List Char) :=
  match if cs.head? == some '-' || cs.head? == some '+' then cs.drop 1 else cs with
  | 'i' :: 'n' :: 'f' :: rest | 'n' :: 'a' :: 'n' :: rest => some (.other, rest)
  | _ => none

/-- A number of exactly `count` digits within bounds at the start of a text. -/
def readField (count least most : Nat) (cs : List Char) : Option (Nat × List Char) :=
  let digits := cs.take count
  let n := ofDigits 10 digits
  if digits.length == count && digits.all Char.isDigit && least ≤ n && n ≤ most then
    some (n, cs.drop count)
  else none

def readMark (mark : Char) : List Char → Option (List Char)
  | c :: cs => if c == mark then some cs else none
  | [] => none

def readDay (cs : List Char) : Option (List Char) := do
  let (year, rest) ← readField 4 0 9999 cs
  let (month, rest) ← readField 2 1 12 (← readMark '-' rest)
  let leap := year % 4 == 0 && (year % 100 != 0 || year % 400 == 0)
  let days :=
    if month == 2 then if leap then 29 else 28
    else if month == 4 || month == 6 || month == 9 || month == 11 then 30
    else 31
  let (_, rest) ← readField 2 1 days (← readMark '-' rest)
  return rest

def readTime (cs : List Char) : Option (List Char) := do
  let (_, rest) ← readField 2 0 23 cs
  let (_, rest) ← readField 2 0 59 (← readMark ':' rest)
  let (_, rest) ← readField 2 0 60 (← readMark ':' rest)
  match rest with
  | '.' :: after =>
    if after.head?.any Char.isDigit then return after.dropWhile Char.isDigit else none
  | _ => return rest

def readOffset : List Char → Option (List Char)
  | c :: cs =>
    if c == 'Z' || c == 'z' then some cs
    else if c == '+' || c == '-' then do
      let (_, rest) ← readField 2 0 23 cs
      let (_, rest) ← readField 2 0 59 (← readMark ':' rest)
      return rest
    else none
  | [] => none

/-- Reads a date, a time of day, or both, and gives back the rest. -/
def readDate (cs : List Char) : Option (Value × List Char) :=
  match readDay cs with
  | none => (readTime cs).map fun rest => (.other, rest)
  | some rest =>
    match rest with
    | c :: later =>
      if c == 'T' || c == 't' || c == ' ' then
        match readTime later with
        | some after => some (.other, (readOffset after).getD after)
        | none => some (.other, rest)
      else some (.other, rest)
    | [] => some (.other, [])

def readScalar (cs : List Char) : Option (Value × List Char) :=
  match cs with
  | 't' :: 'r' :: 'u' :: 'e' :: rest => some (.bool true, rest)
  | 'f' :: 'a' :: 'l' :: 's' :: 'e' :: rest => some (.bool false, rest)
  | '"' :: _ | '\'' :: _ => (readText cs).map fun (s, rest) => (.text s, rest)
  | _ => readDate cs <|> readFloat cs <|> readSpecial cs <|> readInteger cs

end ApiReference.Toml
