import ApiReference.Html.Node

/-!
Documents written as markup: the start tag of an element, its content, and its end tag unless the
element has none. Elements are written as wholes, with all they hold; nodes of other kinds are
written by themselves.
-/

namespace ApiReference.Html

/-- Elements without content and without an end tag. -/
def voidNames : List String := [
  "area", "base", "basefont", "bgsound", "br", "col", "embed", "frame", "hr", "img", "input",
  "keygen", "link", "meta", "param", "source", "track", "wbr"]

def rawTextNames : List String :=
  ["style", "script", "xmp", "iframe", "noembed", "noframes", "plaintext"]

def Element.isVoid (e : Element) : Bool := e.space == .html && voidNames.contains e.name

def Element.isRawText (e : Element) : Bool := e.space == .html && rawTextNames.contains e.name

def escapeTextChar (c : Char) : List Char :=
  if c == '&' then "&amp;".toList
  else if c == '<' then "&lt;".toList
  else if c == '>' then "&gt;".toList
  else if c == '\u00A0' then "&nbsp;".toList
  else [c]

def escapeText (s : String) : String := String.ofList (s.toList.flatMap escapeTextChar)

/-- A character of an attribute value as it is written between double quotes. -/
def escapeValueChar (c : Char) : List Char :=
  if c == '&' then "&amp;".toList
  else if c == '"' then "&quot;".toList
  else if c == '\u00A0' then "&nbsp;".toList
  else [c]

def escapeValue (s : String) : String := String.ofList (s.toList.flatMap escapeValueChar)

/-- An attribute as it is written in a start tag, with the space before it. -/
def Attribute.markup (a : Attribute) : String :=
  " " ++ a.space.mark ++ a.name ++ "=\"" ++ escapeValue a.value ++ "\""

def Element.startTag (e : Element) : String :=
  "<" ++ e.name ++ String.join (e.attributes.map Attribute.markup) ++ ">"

def Element.endTag (e : Element) : String := "</" ++ e.name ++ ">"

/-- The markup of what an element holds. `raw` says whether the text of that element is written
as it is. -/
def contentMarkup (raw : Bool) : List Node → String
  | [] => ""
  | .mk (.text t) _ :: rest => (if raw then t else escapeText t) ++ contentMarkup raw rest
  | .mk (.comment t) _ :: rest => "<!--" ++ t ++ "-->" ++ contentMarkup raw rest
  | .mk (.doctype name) _ :: rest => "<!DOCTYPE " ++ name ++ ">" ++ contentMarkup raw rest
  | .mk (.element e) cs :: rest =>
    (if e.isVoid then e.startTag
      else e.startTag ++ contentMarkup e.isRawText cs ++ e.endTag) ++ contentMarkup raw rest
  | .mk .document cs :: rest | .mk .fragment cs :: rest =>
    contentMarkup raw cs ++ contentMarkup raw rest

/-- The markup of nodes in order, each by itself, whatever element they stand in. -/
def markupOf : List Node → String
  | [] => ""
  | .mk (.text t) _ :: rest => escapeText t ++ markupOf rest
  | .mk (.comment t) _ :: rest => "<!--" ++ t ++ "-->" ++ markupOf rest
  | .mk (.doctype name) _ :: rest => "<!DOCTYPE " ++ name ++ ">" ++ markupOf rest
  | .mk (.element e) cs :: rest => contentMarkup false [.mk (.element e) cs] ++ markupOf rest
  | .mk .document cs :: rest | .mk .fragment cs :: rest => markupOf cs ++ markupOf rest

def Node.outerMarkup (n : Node) : String := markupOf [n]

def Node.innerMarkup (n : Node) : String := markupOf n.children

end ApiReference.Html
