import ApiReference.Html.CharacterReference
import ApiReference.Html.Node

/-!
The tokens that markup is made of, and the parts of markup that each hold one token: tags,
comments and doctypes. A reader takes the characters after the opening of a token and returns
what it read with the characters left over.
-/

namespace ApiReference.Html

/-- A start tag. The first of several attributes of one name counts. -/
structure Tag where
  name : String
  attributes : List (String × String)
  selfClosing : Bool
  deriving DecidableEq, Inhabited

structure Doctype where
  name : Option String
  publicId : Option String
  systemId : Option String
  forceQuirks : Bool
  deriving DecidableEq, Inhabited

inductive Token where
  | doctype (d : Doctype)
  | startTag (tag : Tag)
  | endTag (name : String)
  | comment (text : String)
  /-- Characters that are all blank or all not. -/
  | text (blank : Bool) (content : List Char)
  | null
  | eof
  deriving DecidableEq, Inhabited

/-- The blanks of markup: tab, line feed, form feed, carriage return and space. -/
def isSpace (c : Char) : Bool := c == ' ' || c == '\t' || c == '\n' || c == '\x0c' || c == '\r'

def replaceNull (c : Char) : Char := if c == '\x00' then replacement else c

/-- Markup with every line end written as a line feed. -/
def normalizeLines : List Char → List Char
  | '\r' :: '\n' :: cs => '\n' :: normalizeLines cs
  | '\r' :: cs => '\n' :: normalizeLines cs
  | c :: cs => c :: normalizeLines cs
  | [] => []

/-! ### Tags -/

/-- Where a reader stands inside a tag, after its name. -/
inductive TagPlace where
  | beforeName
  | inName (name : List Char)
  | afterName (name : List Char)
  | beforeValue (name : List Char)
  | quoted (name : List Char) (quote : Char) (value : List Char)
  | unquoted (name value : List Char)
  | afterValue
  | slash

/-- Attributes, last first, with one more. Names and values come reversed; the value is decoded,
and a name that is there already is left out. -/
def addAttribute (attributes : List (String × String)) (name value : List Char) :
    List (String × String) :=
  let name := String.ofList name.reverse
  if attributes.any fun a => a.1 == name then attributes
  else (name, String.ofList (decodeReferences true (value.reverse.map replaceNull))) :: attributes

inductive TagStep where
  | next (place : TagPlace) (attributes : List (String × String))
  | finish (attributes : List (String × String)) (selfClosing : Bool)

/-- A character in attribute names: ASCII capitals count as small letters. -/
def nameChar (c : Char) : Char := replaceNull c.toLower

def stepBeforeName (attributes : List (String × String)) (c : Char) : TagStep :=
  if isSpace c then .next .beforeName attributes
  else if c == '/' then .next .slash attributes
  else if c == '>' then .finish attributes false
  else .next (.inName [nameChar c]) attributes

def stepTag (attributes : List (String × String)) (place : TagPlace) (c : Char) : TagStep :=
  match place with
  | .beforeName => stepBeforeName attributes c
  | .inName name =>
    if isSpace c then .next (.afterName name) attributes
    else if c == '/' then .next .slash (addAttribute attributes name [])
    else if c == '>' then .finish (addAttribute attributes name []) false
    else if c == '=' then .next (.beforeValue name) attributes
    else .next (.inName (nameChar c :: name)) attributes
  | .afterName name =>
    if isSpace c then .next (.afterName name) attributes
    else if c == '=' then .next (.beforeValue name) attributes
    else stepBeforeName (addAttribute attributes name []) c
  | .beforeValue name =>
    if isSpace c then .next (.beforeValue name) attributes
    else if c == '"' || c == '\'' then .next (.quoted name c []) attributes
    else if c == '>' then .finish (addAttribute attributes name []) false
    else .next (.unquoted name [c]) attributes
  | .quoted name quote value =>
    if c == quote then .next .afterValue (addAttribute attributes name value)
    else .next (.quoted name quote (c :: value)) attributes
  | .unquoted name value =>
    if isSpace c then .next .beforeName (addAttribute attributes name value)
    else if c == '>' then .finish (addAttribute attributes name value) false
    else .next (.unquoted name (c :: value)) attributes
  | .afterValue => stepBeforeName attributes c
  | .slash =>
    if c == '>' then .finish attributes true
    else stepBeforeName attributes c

/-- Reads the rest of a tag after its name: the attributes, in order, whether the tag closes
itself, and the characters after it. A tag that the markup ends in is none. -/
def readAttributes (attributes : List (String × String)) (place : TagPlace) :
    List Char → Option (List (String × String) × Bool × List Char)
  | [] => none
  | c :: cs =>
    match stepTag attributes place c with
    | .next place attributes => readAttributes attributes place cs
    | .finish attributes selfClosing => some (attributes.reverse, selfClosing, cs)

def endsTagName (c : Char) : Bool := isSpace c || c == '/' || c == '>'

/-- Reads a tag from the first letter of its name on. -/
def readTag (cs : List Char) : Option (Tag × List Char) :=
  let name := cs.takeWhile fun c => !endsTagName c
  (readAttributes [] .beforeName (cs.drop name.length)).map fun (attributes, selfClosing, rest) =>
    (⟨String.ofList (name.map nameChar), attributes, selfClosing⟩, rest)

/-! ### Comments -/

inductive CommentPlace where
  | start
  | startDash
  | body
  | endDash
  | endDashes
  | endBang

/-- Reads a comment after its opening `<!--`; `text` is what was read, reversed. A comment that
the markup ends in is closed there. -/
def readComment (text : List Char) : CommentPlace → List Char → String × List Char
  | _, [] => (String.ofList text.reverse, [])
  | .start, c :: cs =>
    if c == '-' then readComment text .startDash cs
    else if c == '>' then (String.ofList text.reverse, cs)
    else readComment (replaceNull c :: text) .body cs
  | .startDash, c :: cs =>
    if c == '-' then readComment text .endDashes cs
    else if c == '>' then (String.ofList text.reverse, cs)
    else readComment (replaceNull c :: '-' :: text) .body cs
  | .body, c :: cs =>
    if c == '-' then readComment text .endDash cs
    else readComment (replaceNull c :: text) .body cs
  | .endDash, c :: cs =>
    if c == '-' then readComment text .endDashes cs
    else readComment (replaceNull c :: '-' :: text) .body cs
  | .endDashes, c :: cs =>
    if c == '>' then (String.ofList text.reverse, cs)
    else if c == '!' then readComment text .endBang cs
    else if c == '-' then readComment ('-' :: text) .endDashes cs
    else readComment (replaceNull c :: '-' :: '-' :: text) .body cs
  | .endBang, c :: cs =>
    if c == '-' then readComment ('!' :: '-' :: '-' :: text) .endDash cs
    else if c == '>' then (String.ofList text.reverse, cs)
    else readComment (replaceNull c :: '!' :: '-' :: '-' :: text) .body cs

/-- Reads a declaration that is no markup as a comment: all up to the next `>`. -/
def readBogusComment (cs : List Char) : String × List Char :=
  let text := cs.takeWhile (· != '>')
  (String.ofList (text.map replaceNull), cs.drop (text.length + 1))

/-! ### Doctypes -/

/-- A quoted identifier of a doctype at the start of a text: the identifier, the text after it,
and whether it was closed by its quote. -/
def readIdentifier? : List Char → Option (String × List Char × Bool)
  | q :: cs =>
    if q == '"' || q == '\'' then
      let text := cs.takeWhile fun c => c != q && c != '>'
      let rest := cs.drop text.length
      some (String.ofList (text.map replaceNull), rest.drop 1, rest.head? == some q)
    else none
  | [] => none

def dropSpaces (cs : List Char) : List Char := cs.dropWhile isSpace

def skipDeclaration (cs : List Char) : List Char := (cs.dropWhile (· != '>')).drop 1

def finishDoctype (d : Doctype) (cs : List Char) : Doctype × List Char :=
  match dropSpaces cs with
  | '>' :: rest => (d, rest)
  | [] => ({ d with forceQuirks := true }, [])
  | rest => (d, skipDeclaration rest)

def readSystemId (d : Doctype) (cs : List Char) : Doctype × List Char :=
  match readIdentifier? (dropSpaces cs) with
  | some (id, rest, true) => finishDoctype { d with systemId := some id } rest
  | some (id, rest, false) => ({ d with systemId := some id, forceQuirks := true }, rest)
  | none => ({ d with forceQuirks := true }, skipDeclaration (dropSpaces cs))

def readPublicId (d : Doctype) (cs : List Char) : Doctype × List Char :=
  match readIdentifier? (dropSpaces cs) with
  | some (id, rest, true) =>
    let d := { d with publicId := some id }
    match dropSpaces rest with
    | '>' :: rest => (d, rest)
    | rest => readSystemId d rest
  | some (id, rest, false) => ({ d with publicId := some id, forceQuirks := true }, rest)
  | none => ({ d with forceQuirks := true }, skipDeclaration (dropSpaces cs))

/-- Whether a text starts with a word, in any ASCII letter case. -/
def startsWithWord (word : String) (cs : List Char) : Bool :=
  (cs.take word.length).map Char.toLower == word.toList

def readDoctype (cs : List Char) : Doctype × List Char :=
  match dropSpaces cs with
  | [] => (⟨none, none, none, true⟩, [])
  | '>' :: rest => (⟨none, none, none, true⟩, rest)
  | rest =>
    let name := rest.takeWhile fun c => !(isSpace c || c == '>')
    let d : Doctype := ⟨some (String.ofList (name.map nameChar)), none, none, false⟩
    match dropSpaces (rest.drop name.length) with
    | [] => ({ d with forceQuirks := true }, [])
    | '>' :: rest => (d, rest)
    | rest =>
      if startsWithWord "public" rest then readPublicId d (rest.drop 6)
      else if startsWithWord "system" rest then readSystemId d (rest.drop 6)
      else ({ d with forceQuirks := true }, skipDeclaration rest)

end ApiReference.Html
