import ApiReference.Toml.Scalar

/-!
Tables of strings and integers written as TOML. A string stands in single quotes if that spares
it escapes, and over several lines if it has a line feed.
-/

namespace ApiReference.Toml

/-- Whether a character has no place in a string without escapes. -/
def needsEscape (c : Char) : Bool :=
  (c.toNat < 0x20 && c != '\t' && c != '\n') || c.toNat == 0x7F

/-- The length of the longest run of single quotes in a text, where `run` quotes came right
before. -/
def longestRun (run : Nat) : List Char → Nat
  | [] => run
  | c :: cs => if c == '\'' then longestRun (run + 1) cs else max run (longestRun 0 cs)

/-- Whether a text can and had better stand in single quotes: it has double quotes or
backslashes, nothing that needs an escape, and no single quotes that would close it. -/
def prefersLiteral (cs : List Char) : Bool :=
  (cs.contains '"' || cs.contains '\\') && !cs.any needsEscape && longestRun 0 cs < 3 &&
    cs.getLast? != some '\''

def escapeChar (long : Bool) (c : Char) : List Char :=
  if c == '\x08' then ['\\', 'b']
  else if c == '\t' then ['\\', 't']
  else if c == '\n' then if long then ['\n'] else ['\\', 'n']
  else if c == '\x0C' then ['\\', 'f']
  else if c == '\r' then ['\\', 'r']
  else if c == '"' then ['\\', '"']
  else if c == '\\' then ['\\', '\\']
  else if needsEscape c then
    ['\\', 'u', '0', '0', Nat.digitChar (c.toNat / 16), (Nat.digitChar (c.toNat % 16)).toUpper]
  else [c]

def writtenText (s : String) : List Char :=
  let cs := s.toList
  let long := cs.contains '\n'
  if prefersLiteral cs then
    if long then ['\'', '\'', '\'', '\n'] ++ cs ++ ['\'', '\'', '\'']
    else if cs.contains '\'' then ['\'', '\'', '\''] ++ cs ++ ['\'', '\'', '\'']
    else '\'' :: (cs ++ ['\''])
  else if long then ['"', '"', '"', '\n'] ++ cs.flatMap (escapeChar true) ++ ['"', '"', '"']
  else '"' :: (cs.flatMap (escapeChar false) ++ ['"'])

inductive Plain where
  | text (s : String)
  | integer (n : Nat)
  deriving DecidableEq, Inhabited

def Plain.toValue : Plain → Value
  | .text s => .text s
  | .integer n => .integer n

def Plain.written : Plain → List Char
  | .text s => writtenText s
  | .integer n => Nat.toDigits 10 n

def writtenTable (name : String) (entries : List (String × Plain)) : List Char :=
  '[' :: (name.toList ++ [']', '\n']) ++
    entries.flatMap fun (key, v) => key.toList ++ [' ', '=', ' '] ++ v.written ++ ['\n']

def writtenTables : List (String × List (String × Plain)) → List Char
  | [] => []
  | [(name, entries)] => writtenTable name entries
  | (name, entries) :: t :: rest =>
    writtenTable name entries ++ '\n' :: writtenTables (t :: rest)

def pretty (tables : List (String × List (String × Plain))) : String :=
  String.ofList (writtenTables tables)

end ApiReference.Toml
