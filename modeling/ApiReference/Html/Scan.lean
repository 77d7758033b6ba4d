import ApiReference.Html.Token

/-!
Markup cut into tokens. What the next token is depends on the element being read: the text of
scripts, styles and titles follows rules of its own, which end at the element's end tag.
`scan` reads from the front of nonempty markup; what it returns is always shorter.
-/

namespace ApiReference.Html

inductive ScanMode where
  | data
  /-- Text with character references, up to the end tag. -/
  | references (endTag : String)
  /-- Text as it is, up to the end tag. -/
  | raw (endTag : String)
  /-- Text as it is, up to the end tag outside of commented script tags. -/
  | script (endTag : String)
  /-- Text as it is, to the end of the markup. -/
  | plain
  deriving DecidableEq, Inhabited

/-- Characters as tokens, each of blanks only or of other characters only. -/
def textTokens (cs : List Char) : List Token :=
  (cs.splitBy fun a b => isSpace a == isSpace b).map fun run =>
    .text (run.head?.all isSpace) run

def atEndTag (name : String) : List Char → Bool
  | '<' :: '/' :: cs =>
    startsWithWord name cs && ((cs.drop name.length).head?.any endsTagName)
  | _ => false

def untilEndTag (name : String) : List Char → List Char × List Char
  | [] => ([], [])
  | c :: cs =>
    if atEndTag name (c :: cs) then ([], c :: cs)
    else
      let (text, rest) := untilEndTag name cs
      (c :: text, rest)

/-- Where a reader stands in a script: outside comments, in a comment, or in a script tag in a
comment; in the latter two after up to two dashes. -/
inductive ScriptPlace where
  | code
  | escaped (dashes : Nat)
  | doubleEscaped (dashes : Nat)

/-- The place in a script after one more character, where `cs` are the characters from it on. -/
def ScriptPlace.step : ScriptPlace → List Char → ScriptPlace
  | .code, _ => .code
  | .escaped dashes, c :: cs =>
    if c == '-' then .escaped (min 2 (dashes + 1))
    else if c == '>' && dashes == 2 then .code
    else if c == '<' && startsWithWord "script" cs && (cs.drop 6).head?.any endsTagName then
      .doubleEscaped 0
    else .escaped 0
  | .doubleEscaped dashes, c :: cs =>
    if c == '-' then .doubleEscaped (min 2 (dashes + 1))
    else if c == '>' && dashes == 2 then .code
    else if c == '<' && startsWithWord "/script" cs && (cs.drop 7).head?.any endsTagName then
      .escaped 0
    else .doubleEscaped 0
  | place, [] => place

def ScriptPlace.canEnd : ScriptPlace → Bool
  | .code | .escaped _ => true
  | .doubleEscaped _ => false

/-- The characters of a script before its end tag, and those from the end tag on. `skip`
characters have been looked at already. -/
def untilScriptEnd (name : String) (place : ScriptPlace) (skip : Nat) :
    List Char → List Char × List Char
  | [] => ([], [])
  | c :: cs =>
    match skip with
    | skip + 1 =>
      let (text, rest) := untilScriptEnd name place skip cs
      (c :: text, rest)
    | 0 =>
      if place.canEnd && atEndTag name (c :: cs) then ([], c :: cs)
      else
        let (place, skip) := match place with
          | .code => if "<!--".toList.isPrefixOf (c :: cs) then (.escaped 2, 3) else (.code, 0)
          | _ => (place.step (c :: cs), 0)
        let (text, rest) := untilScriptEnd name place skip cs
        (c :: text, rest)

def scanEndTag (cs : List Char) : List Token × List Char :=
  match readTag (cs.drop 2) with
  | some (tag, rest) => ([.endTag tag.name], rest)
  | none => ([], [])

/-- Reads a tag or declaration after its opening `<`; `none` if the `<` is plain text. -/
def scanTag? (foreign : Bool) : List Char → Option (List Token × List Char)
  | '!' :: cs =>
    if "--".toList.isPrefixOf cs then
      let (text, rest) := readComment [] .start (cs.drop 2)
      some ([.comment text], rest)
    else if startsWithWord "doctype" cs then
      let (d, rest) := readDoctype (cs.drop 7)
      some ([.doctype d], rest)
    else if foreign && "[CDATA[".toList.isPrefixOf cs then
      let text := cs.drop 7
      let (inner, rest) := untilCdataEnd text
      some (charTokens inner, rest)
    else
      let (text, rest) := readBogusComment cs
      some ([.comment text], rest)
  | '?' :: cs =>
    let (text, rest) := readBogusComment ('?' :: cs)
    some ([.comment text], rest)
  | '/' :: c :: cs =>
    if c.isAlpha then
      match readTag (c :: cs) with
      | some (tag, rest) => some ([.endTag tag.name], rest)
      | none => some ([], [])
    else if c == '>' then some ([], cs)
    else
      let (text, rest) := readBogusComment (c :: cs)
      some ([.comment text], rest)
  | c :: cs =>
    if c.isAlpha then
      match readTag (c :: cs) with
      | some (tag, rest) => some ([.startTag tag], rest)
      | none => some ([], [])
    else none
  | [] => none
where
  untilCdataEnd : List Char → List Char × List Char
    | [] => ([], [])
    | c :: cs =>
      if "]]>".toList.isPrefixOf (c :: cs) then ([], cs.drop 2)
      else
        let (text, rest) := untilCdataEnd cs
        (c :: text, rest)
  /-- Characters as tokens, with null characters apart. -/
  charTokens (cs : List Char) : List Token :=
    (cs.splitBy fun a b => a != '\x00' && b != '\x00').flatMap fun run =>
      if run == ['\x00'] then [.null] else textTokens run

def isPlainData (c : Char) : Bool := c != '<' && c != '\x00'

/-- Reads the next tokens of nonempty markup. `foreign` says whether the element being read is
outside of HTML's own vocabulary, where CDATA sections are allowed. -/
def scan (mode : ScanMode) (foreign : Bool) (cs : List Char) : List Token × List Char :=
  match mode with
  | .plain => (textTokens (cs.map replaceNull), [])
  | .references name =>
    if atEndTag name cs then scanEndTag cs
    else
      let (text, rest) := untilEndTag name cs
      (textTokens (decodeReferences false (text.map replaceNull)), rest)
  | .raw name =>
    if atEndTag name cs then scanEndTag cs
    else
      let (text, rest) := untilEndTag name cs
      (textTokens (text.map replaceNull), rest)
  | .script name =>
    if atEndTag name cs then scanEndTag cs
    else
      let (text, rest) := untilScriptEnd name .code 0 cs
      (textTokens (text.map replaceNull), rest)
  | .data =>
    match cs with
    | [] => ([], [])
    | '\x00' :: rest => ([.null], rest)
    | '<' :: rest => (scanTag? foreign rest).getD ([.text false ['<']], rest)
    | _ =>
      let text := cs.takeWhile isPlainData
      (textTokens (decodeReferences false text), cs.drop text.length)

end ApiReference.Html
