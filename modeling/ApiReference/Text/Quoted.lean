import ApiReference.Text.Printable

/-!
Quoted text for messages: a text between double quotes in which every character that could not
be told apart on a page is written as an escape.
-/

namespace ApiReference.Text

def hexDigits (n : Nat) : List Char := Nat.toDigits 16 n

def quotedChar (c : Char) : List Char :=
  if c == '\x00' then ['\\', '0']
  else if c == '\t' then ['\\', 't']
  else if c == '\n' then ['\\', 'n']
  else if c == '\r' then ['\\', 'r']
  else if c == '"' then ['\\', '"']
  else if c == '\\' then ['\\', '\\']
  else if isPrintable c then [c]
  else ['\\', 'u', '\x7b'] ++ hexDigits c.toNat ++ ['\x7d']

def quoted (s : String) : String :=
  String.ofList (['"'] ++ s.toList.flatMap quotedChar ++ ['"'])

/-- A path in double quotes; in paths the single quote is escaped too. -/
def quotedPath (s : String) : String :=
  String.ofList (['"'] ++
    s.toList.flatMap (fun c => if c == '\'' then ['\\', '\''] else quotedChar c) ++ ['"'])

end ApiReference.Text
