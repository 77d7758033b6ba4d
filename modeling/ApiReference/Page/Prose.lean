import ApiReference.Html.Markup

/-!
Prose: the text of a part of a page with its emphasis, code and lists kept as plain marks, and
with straight quotes. Elements that prose has no marks for are kept as markup.
-/

namespace ApiReference.Page

open Html

/-- The marks put on both sides of the text of an element. -/
def proseMark? : String → Option String
  | "em" | "i" => some "*"
  | "strong" | "b" => some "**"
  | "code" => some "\x60"
  | _ => none

/-- Elements whose text is prose as it is. -/
def transparentNames : List String := ["a", "p", "ul", "ol", "span"]

/-- What stands for an image: its text, or else its address in brackets. -/
def imageProse (e : Element) : String :=
  match (e.attribute? "alt").filter fun alt => !alt.isEmpty with
  | some alt => alt
  | none => "[" ++ (e.attribute? "src").getD "" ++ "]"

/-- The prose of nodes in order, with the quotes of the page. -/
def proseOf : List Node → String
  | [] => ""
  | .mk (.text t) _ :: rest => t ++ proseOf rest
  | .mk (.element e) cs :: rest =>
    let here :=
      match proseMark? e.name with
      | some mark => mark ++ proseOf cs ++ mark
      | none =>
        if transparentNames.contains e.name then proseOf cs
        else if e.name == "br" then "\n"
        else if e.name == "li" then "\n  - " ++ proseOf cs
        else if e.name == "img" then imageProse e
        else (Node.mk (.element e) cs).outerMarkup
    here ++ proseOf rest
  | .mk .document _ :: rest | .mk .fragment _ :: rest | .mk (.comment _) _ :: rest
  | .mk (.doctype _) _ :: rest => proseOf rest

def straightenQuotes (s : String) : String :=
  String.ofList (s.toList.map fun c => if c == '\u201C' || c == '\u201D' then '"' else c)

def prose (n : Node) : String := straightenQuotes (proseOf n.children)

end ApiReference.Page
