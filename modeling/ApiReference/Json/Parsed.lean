import ApiReference.Json.Basic

/-!
JSON texts read. Reading never fails as a whole: where a text stops being JSON, the value read so
far ends in `broken`, so that whoever looks at the values in order meets the first thing wrong
with the text at its place.
-/

namespace ApiReference.Json

/-- What a text holds where a JSON value is expected. -/
inductive Parsed where
  | null
  | bool (b : Bool)
  /-- A number, with its value if that is written as a natural number. -/
  | number (natural? : Option Nat)
  /-- A string, with its text unless an escape names half a surrogate pair. -/
  | text (text? : Option String)
  | list (items : List Parsed)
  | object (members : List (Option String × Parsed))
  /-- No JSON value. Nothing is read after it. -/
  | broken
  deriving Inhabited

mutual

def Parsed.isWhole : Parsed → Bool
  | .null | .bool _ | .number _ | .text _ => true
  | .list items => areWhole items
  | .object members => membersWhole members
  | .broken => false

def areWhole : List Parsed → Bool
  | [] => true
  | p :: rest => p.isWhole && areWhole rest

def membersWhole : List (Option String × Parsed) → Bool
  | [] => true
  | (_, p) :: rest => p.isWhole && membersWhole rest

end

def isSpace (c : Char) : Bool := c == ' ' || c == '\n' || c == '\t' || c == '\r'

def hexValue? (c : Char) : Option Nat :=
  if c.isDigit then some (c.toNat - '0'.toNat)
  else if 'a' ≤ c && c ≤ 'f' then some (c.toNat - 'a'.toNat + 10)
  else if 'A' ≤ c && c ≤ 'F' then some (c.toNat - 'A'.toNat + 10)
  else none

def hexValue4? (a b c d : Char) : Option Nat := do
  return ((← hexValue? a) * 16 + (← hexValue? b)) * 256 + (← hexValue? c) * 16 + (← hexValue? d)

def unescape? : Char → Option Char
  | '"' => some '"'
  | '\\' => some '\\'
  | '/' => some '/'
  | 'b' => some '\x08'
  | 'f' => some '\x0C'
  | 'n' => some '\n'
  | 'r' => some '\r'
  | 't' => some '\t'
  | _ => none

/-- The rest of a string after its opening quote: the characters, with escapes of four digits as
the number they give, and the text after the closing quote. -/
def stringUnits : List Char → Option (List Nat × List Char)
  | [] => none
  | '"' :: rest => some ([], rest)
  | '\\' :: 'u' :: a :: b :: c :: d :: rest =>
    match hexValue4? a b c d, stringUnits rest with
    | some n, some (units, after) => some (n :: units, after)
    | _, _ => none
  | '\\' :: e :: rest =>
    match unescape? e, stringUnits rest with
    | some c, some (units, after) => some (c.toNat :: units, after)
    | _, _ => none
  | c :: rest =>
    if c == '\\' || c.toNat < 0x20 then none
    else match stringUnits rest with
      | some (units, after) => some (c.toNat :: units, after)
      | none => none

def isHighSurrogate (n : Nat) : Bool := 0xD800 ≤ n && n < 0xDC00

def isLowSurrogate (n : Nat) : Bool := 0xDC00 ≤ n && n < 0xE000

/-- The characters of a string, with its surrogate pairs put together. -/
def charactersOf : List Nat → Option (List Char)
  | [] => some []
  | [n] => if isHighSurrogate n || isLowSurrogate n then none else some [Char.ofNat n]
  | n :: m :: rest =>
    if isLowSurrogate n then none
    else if isHighSurrogate n then
      if isLowSurrogate m then
        (charactersOf rest).map
          (Char.ofNat (0x10000 + (n - 0xD800) * 0x400 + (m - 0xDC00)) :: ·)
      else none
    else (charactersOf (m :: rest)).map (Char.ofNat n :: ·)

def readString (cs : List Char) : Option (Option String × List Char) :=
  (stringUnits cs).map fun (units, after) => ((charactersOf units).map String.ofList, after)

def spanDigits (cs : List Char) : List Char × List Char := cs.span Char.isDigit

def ofDigits (digits : List Char) : Nat :=
  digits.foldl (fun n c => 10 * n + (c.toNat - '0'.toNat)) 0

/-- A text after a fraction at its start, if there is one; whether there was; `none` if it
breaks off. -/
def skipFraction : List Char → Option (Bool × List Char)
  | '.' :: cs =>
    let (digits, rest) := spanDigits cs
    if digits.isEmpty then none else some (true, rest)
  | cs => some (false, cs)

/-- The same for an exponent. -/
def skipExponent : List Char → Option (Bool × List Char)
  | e :: cs =>
    if e == 'e' || e == 'E' then
      let unsigned := match cs with
        | sign :: cs' => if sign == '+' || sign == '-' then cs' else cs
        | [] => cs
      let (digits, rest) := spanDigits unsigned
      if digits.isEmpty then none else some (true, rest)
    else some (false, e :: cs)
  | [] => some (false, [])

/-- Reads a number: its value if it is natural and written without fraction and exponent, and the
text after it. Only the number nought starts with the digit nought. -/
def readNumber (cs : List Char) : Option (Option Nat × List Char) := do
  let negative := cs.head? == some '-'
  let (digits, rest) := spanDigits (if negative then cs.drop 1 else cs)
  if digits.isEmpty || (digits.head? == some '0' && digits.length != 1) then none
  else
    let (hasFraction, rest) ← skipFraction rest
    let (hasExponent, rest) ← skipExponent rest
    return (if negative || hasFraction || hasExponent then none else some (ofDigits digits), rest)

mutual

/-- Reads a value, and gives the text after it unless it is broken; `fuel` bounds nesting and
length. -/
def value : Nat → List Char → Parsed × Option (List Char)
  | 0, _ => (.broken, none)
  | fuel + 1, cs =>
    match cs.dropWhile isSpace with
    | '[' :: rest =>
      match rest.dropWhile isSpace with
      | ']' :: after => (.list [], some after)
      | rest =>
        let (read, after) := items fuel rest
        (.list read, after)
    | '\x7b' :: rest =>
      match rest.dropWhile isSpace with
      | '\x7d' :: after => (.object [], some after)
      | rest =>
        let (read, after) := members fuel rest
        (.object read, after)
    | '"' :: rest =>
      match readString rest with
      | some (t, after) => (.text t, some after)
      | none => (.broken, none)
    | 't' :: 'r' :: 'u' :: 'e' :: after => (.bool true, some after)
    | 'f' :: 'a' :: 'l' :: 's' :: 'e' :: after => (.bool false, some after)
    | 'n' :: 'u' :: 'l' :: 'l' :: after => (.null, some after)
    | rest =>
      match readNumber rest with
      | some (n, after) => (.number n, some after)
      | none => (.broken, none)

def items : Nat → List Char → List Parsed × Option (List Char)
  | 0, _ => ([.broken], none)
  | fuel + 1, cs =>
    match value fuel cs with
    | (first, none) => ([first], none)
    | (first, some rest) =>
      match rest.dropWhile isSpace with
      | ',' :: rest =>
        let (later, after) := items fuel rest
        (first :: later, after)
      | ']' :: after => ([first], some after)
      | _ => ([first, .broken], none)

def members : Nat → List Char → List (Option String × Parsed) × Option (List Char)
  | 0, _ => ([(none, .broken)], none)
  | fuel + 1, cs =>
    match cs.dropWhile isSpace with
    | '"' :: rest =>
      match readString rest with
      | none => ([(none, .broken)], none)
      | some (name, rest) =>
        match rest.dropWhile isSpace with
        | ':' :: rest =>
          match value fuel rest with
          | (first, none) => ([(name, first)], none)
          | (first, some rest) =>
            match rest.dropWhile isSpace with
            | ',' :: rest =>
              let (later, after) := members fuel rest
              ((name, first) :: later, after)
            | '\x7d' :: after => ([(name, first)], some after)
            | _ => ([(name, first), (none, .broken)], none)
        | _ => ([(name, .broken)], none)
    | _ => ([(none, .broken)], none)

end

/-- A text read as one JSON value: what it holds, and whether that ends where the text ends. -/
def parse (text : String) : Parsed × Bool :=
  let cs := text.toList
  let (read, rest) := value (2 * cs.length + 2) cs
  (read, (rest.map fun after => after.all isSpace).getD false)

end ApiReference.Json
