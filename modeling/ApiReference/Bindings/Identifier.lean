import ApiReference.Text.Case

/-!
Names in the generated Rust source: fields and request types in capitals, methods in small
letters with underscores. A name that is a keyword is written as a raw identifier, or with an
underscore after it where Rust allows no raw form.
-/

namespace ApiReference.Identifier

/-- The keywords of Rust that have a raw form, those reserved for later editions included, and
two that do not. -/
def keywords : List String := [
  "as", "async", "await", "break", "const", "continue", "crate", "dyn", "else", "enum",
  "extern", "false", "fn", "for", "if", "impl", "in", "let", "loop", "match", "mod", "move",
  "mut", "pub", "ref", "return", "static", "struct", "super", "trait", "true", "type",
  "unsafe", "use", "where", "while", "abstract", "become", "box", "do", "final", "gen",
  "macro", "override", "priv", "try", "typeof", "unsized", "virtual", "yield"]

/-- The keywords of Rust that stand in paths and have no raw form. -/
def pathKeywords : List String := ["self", "Self", "super", "crate"]

/-- A name made safe to use where an identifier is expected. -/
def escape (name : String) : String :=
  if pathKeywords.contains name then name ++ "_"
  else if keywords.contains name then "r#" ++ name
  else name

/-- A name without its underscores, with a capital at its start and after each underscore.
`start` says whether the next character opens a part. -/
def capitalized (start : Bool) : List Char → List Char
  | [] => []
  | c :: cs =>
    if c == '_' then capitalized true cs
    else if start then Text.upper c ++ capitalized false cs
    else c :: capitalized false cs

def pascalCase (name : String) : String := String.ofList (capitalized true name.toList)

def field (wire : String) : String := escape (pascalCase wire)

def request (operation : String) : String := pascalCase operation ++ "Request"

/-- Whether a new word starts at `c`, given its neighbours: at a capital that follows a small
letter or a digit, and at the last capital of several if a small letter comes next. -/
def startsWord (before : Option Char) (c : Char) (after : Option Char) : Bool :=
  match before with
  | none => false
  | some p =>
    Text.isUpper c &&
      (Text.isLower p || p.isDigit || (Text.isUpper p && after.any Text.isLower))

/-- A name in small letters with an underscore before each further word. -/
def underscored (before : Option Char) : List Char → List Char
  | [] => []
  | c :: cs =>
    (if startsWord before c cs.head? then ['_'] else []) ++ Text.lower c ++ underscored (some c) cs

def method (operation : String) : String := escape (String.ofList (underscored none operation.toList))

end ApiReference.Identifier
