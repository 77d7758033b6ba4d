import ApiReference.Html.Formatting

/-!
The rules for markup up to the body: before the root element, in the head, and after it. Tags
that may be left out are put in where the next token shows that they were.
-/

namespace ApiReference.Html.Build

/-- What most rules end with: the token is used up. -/
def finish (step : Build Unit) : Build Outcome := do
  step
  return .done

/-- End tags that open what they close if it was left out. -/
def impliedOpenNames : List String := ["head", "body", "html", "br"]

def initialRules : Token → Build Outcome
  | .text true _ => return .done
  | .comment text => finish (appendComment 0 text)
  | _ => do
    modify fun c => { c with quirks := true }
    return .again .beforeHtml

def openRoot (attributes : List (String × String)) : Build Unit := do
  let id ← createElement .html "html" (plainAttributes attributes)
  push id
  edit fun d => d.append 0 id

def beforeHtmlRules (token : Token) : Build Outcome := do
  match token with
  | .text true _ => return .done
  | .comment text => return ← finish (appendComment 0 text)
  | .startTag tag =>
    if tag.name == "html" then
      openRoot tag.attributes
      setMode .beforeHead
      return .done
  | .endTag name =>
    if !impliedOpenNames.contains name then return .done
  | _ => pure ()
  openRoot []
  return .again .beforeHead

def openHead (attributes : List (String × String)) : Build Unit := do
  let id ← insertElement .html "head" (plainAttributes attributes)
  modify fun c => { c with head := some id }

def beforeHeadRules (token : Token) : Build Outcome := do
  match token with
  | .text true _ => return .done
  | .comment text => return ← finish (insertComment text)
  | .startTag tag =>
    if tag.name == "html" then return ← finish (mergeIntoRoot tag)
    if tag.name == "head" then
      openHead tag.attributes
      setMode .inHead
      return .done
  | .endTag name =>
    if !impliedOpenNames.contains name then return .done
  | _ => pure ()
  openHead []
  return .again .inHead

/-- The start tags that the rules for the head are about wherever they stand. -/
def headNames : List String := [
  "base", "basefont", "bgsound", "link", "meta", "noframes", "script", "style", "template",
  "title"]

def openTemplate (tag : Tag) : Build Unit := do
  insertTag tag
  pushMarker
  framesetNotOk
  modify fun c =>
    { c with mode := .inTemplate, templateModes := .inTemplate :: c.templateModes }

def leaveTemplate : Build Unit := do
  popUntilNamed ["template"]
  clearFormatting
  modify fun c => { c with templateModes := c.templateModes.drop 1 }
  setMode (← currentMode)

def closeTemplate : Build Unit := do
  if (← get).hasOpen "template" then
    closeImplied thoroughEndNames none
    leaveTemplate

def inHeadRules (token : Token) : Build Outcome := do
  match token with
  | .text true content => return ← finish (insertText content)
  | .comment text => return ← finish (insertComment text)
  | .startTag tag =>
    match tag.name with
    | "html" => return ← finish (mergeIntoRoot tag)
    | "base" | "basefont" | "bgsound" | "link" | "meta" => return ← finish (insertVoid tag)
    | "title" => return ← finish (insertTextElement tag (.references "title"))
    | "noframes" | "style" | "noscript" =>
      return ← finish (insertTextElement tag (.raw tag.name))
    | "script" => return ← finish (insertTextElement tag (.script "script"))
    | "template" => return ← finish (openTemplate tag)
    | "head" => return .done
    | _ => pure ()
  | .endTag name =>
    if name == "head" then
      pop
      setMode .afterHead
      return .done
    if name == "template" then return ← finish closeTemplate
    if !impliedOpenNames.contains name then return .done
  | _ => pure ()
  pop
  return .again .afterHead

/-- Between the head and the body. What belongs in the head still goes there. -/
def afterHeadRules (token : Token) : Build Outcome := do
  match token with
  | .text true content => return ← finish (insertText content)
  | .comment text => return ← finish (insertComment text)
  | .startTag tag =>
    if tag.name == "html" then return ← finish (mergeIntoRoot tag)
    if tag.name == "body" then
      insertTag tag
      framesetNotOk
      setMode .inBody
      return .done
    if tag.name == "frameset" then
      insertTag tag
      setMode .inFrameset
      return .done
    if headNames.contains tag.name then
      if let some head := (← get).head then
        push head
        let outcome ← inHeadRules token
        close head
        return outcome
    if tag.name == "head" then return .done
  | .endTag name =>
    if name == "template" then return ← inHeadRules token
    if !(["body", "html", "br"]).contains name then return .done
  | _ => pure ()
  let _ ← insertImplied "body"
  return .again .inBody

end ApiReference.Html.Build
