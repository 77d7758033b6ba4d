/-!
JSON values as they are written: numbers are natural, and the members of an object stand in the
order in which they were put. Written out, each item and each member has a line of its own.
-/

namespace ApiReference

/-- A JSON value to be written. -/
inductive Json where
  | bool (b : Bool)
  | number (n : Nat)
  | text (s : String)
  | list (items : List Json)
  | object (members : List (String × Json))
  deriving Inhabited

namespace Json

def hexDigit (n : Nat) : Char := Nat.digitChar n

def escapeChar (c : Char) : List Char :=
  if c == '"' then ['\\', '"']
  else if c == '\\' then ['\\', '\\']
  else if c == '\x08' then ['\\', 'b']
  else if c == '\t' then ['\\', 't']
  else if c == '\n' then ['\\', 'n']
  else if c == '\x0C' then ['\\', 'f']
  else if c == '\r' then ['\\', 'r']
  else if c.toNat < 0x20 then
    ['\\', 'u', '0', '0', hexDigit (c.toNat / 16), hexDigit (c.toNat % 16)]
  else [c]

def quoted (s : String) : List Char := '"' :: (s.toList.flatMap escapeChar ++ ['"'])

def lineBreak (depth : Nat) : List Char := '\n' :: List.replicate (2 * depth) ' '

mutual

/-- A value written at a nesting depth. -/
def written (depth : Nat) : Json → List Char
  | .bool true => "true".toList
  | .bool false => "false".toList
  | .number n => Nat.toDigits 10 n
  | .text s => quoted s
  | .list items =>
    '[' :: (writtenItems (depth + 1) items ++
      (if items.isEmpty then [] else lineBreak depth) ++ [']'])
  | .object members =>
    '\x7b' :: (writtenMembers (depth + 1) members ++
      (if members.isEmpty then [] else lineBreak depth) ++ ['\x7d'])

def writtenItems (depth : Nat) : List Json → List Char
  | [] => []
  | [j] => lineBreak depth ++ written depth j
  | j :: k :: rest => lineBreak depth ++ written depth j ++ ',' :: writtenItems depth (k :: rest)

def writtenMembers (depth : Nat) : List (String × Json) → List Char
  | [] => []
  | [(name, j)] => lineBreak depth ++ quoted name ++ ':' :: ' ' :: written depth j
  | (name, j) :: m :: rest =>
    lineBreak depth ++ quoted name ++ ':' :: ' ' :: written depth j ++
      ',' :: writtenMembers depth (m :: rest)

end

def pretty (j : Json) : String := String.ofList (written 0 j)

end Json

end ApiReference
