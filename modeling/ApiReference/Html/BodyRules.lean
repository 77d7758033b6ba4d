import ApiReference.Html.HeadRules

/-!
The rules for the content of the body.
-/

namespace ApiReference.Html.Build

/-- Opens the element of a tag from another vocabulary. -/
def insertForeign (space : Space) (name : String) (tag : Tag) : Build Unit := do
  let attributes := attributesIn space tag.attributes
  if tag.selfClosing then
    let _ ← insertClosed space name attributes
  else
    let _ ← insertElement space name attributes

def isHiddenInput (tag : Tag) : Bool :=
  (tag.attributes.lookup "type").any fun t => Text.equalIgnoringCase t "hidden"

/-- Takes the body out again to put a frameset in its place, where nothing was shown yet. -/
def replaceBody (tag : Tag) : Build Unit := do
  let c ← get
  if !c.framesetOk then return
  match c.openElements.reverse with
  | root :: body :: _ =>
    if c.isHtml ["body"] body then
      edit fun d => d.detach body
      modify fun c => { c with openElements := [root] }
      insertTag tag
      setMode .inFrameset
  | _ => return

/-- Opens a list item or a definition. An open one that it comes after is closed, unless a block
is open in that one. -/
def insertListItem (tag : Tag) : Build Unit := do
  framesetNotOk
  let c ← get
  let closes := if tag.name == "li" then ["li"] else ["dd", "dt"]
  let ends := specialNames.filter fun n => !(["address", "div", "p"]).contains n
  -- The search ends at the first element that items do not reach out of.
  let found := c.openElements.find? fun id => c.isHtml closes id || c.isHtml ends id
  if let some e := found.bind c.element? then
    if e.isHtml closes then
      closeImplied impliedEndNames (some e.name)
      popUntilNamed [e.name]
  closeParagraphInScope
  insertTag tag

def bodyStartTag (tag : Tag) : Build Unit := do
  let name := tag.name
  if name == "html" then mergeIntoRoot tag
  else if headNames.contains name then
    let _ ← inHeadRules (.startTag tag)
  else if name == "body" then
    let c ← get
    match c.openElements.reverse with
    | _ :: body :: _ =>
      if c.isHtml ["body"] body && !c.hasOpen "template" then
        framesetNotOk
        mergeIntoRoot.mergeAttributes body tag
    | _ => return
  else if name == "frameset" then replaceBody tag
  else if blockNames.contains name then
    closeParagraphInScope
    insertTag tag
  else if headingNames.contains name then
    closeParagraphInScope
    if (← get).currentIs headingNames then pop
    insertTag tag
  else if name == "pre" || name == "listing" then
    closeParagraphInScope
    insertTag tag
    modify fun c => { c with dropLineFeed := true, framesetOk := false }
  else if name == "form" then
    let c ← get
    if c.form.isSome && !c.hasOpen "template" then return
    closeParagraphInScope
    insertTag tag
    if !c.hasOpen "template" then modify fun c => { c with form := c.current? }
  else if name == "li" || name == "dd" || name == "dt" then insertListItem tag
  else if name == "plaintext" then
    closeParagraphInScope
    insertTag tag
    modify fun c => { c with scanMode := .plain }
  else if name == "button" then
    if ← inScope defaultScope ["button"] then
      closeImplied impliedEndNames none
      popUntilNamed ["button"]
    reconstructFormatting
    insertTag tag
    framesetNotOk
  else if name == "a" then
    closeOpenLink
    reconstructFormatting
    insertFormatting tag
  else if name == "nobr" then
    reconstructFormatting
    if ← inScope defaultScope ["nobr"] then
      closeFormatting "nobr"
      reconstructFormatting
    insertFormatting tag
  else if formattingNames.contains name then
    reconstructFormatting
    insertFormatting tag
  else if ["applet", "marquee", "object"].contains name then
    reconstructFormatting
    insertTag tag
    pushMarker
    framesetNotOk
  else if name == "table" then
    if !(← get).quirks then closeParagraphInScope
    insertTag tag
    framesetNotOk
    setMode .inTable
  else if ["area", "br", "embed", "img", "keygen", "wbr", "input"].contains name then
    reconstructFormatting
    insertVoid tag
    if !(name == "input" && isHiddenInput tag) then framesetNotOk
  else if ["param", "source", "track"].contains name then insertVoid tag
  else if name == "hr" then
    closeParagraphInScope
    insertVoid tag
    framesetNotOk
  else if name == "image" then
    reconstructFormatting
    insertVoid { tag with name := "img" }
    framesetNotOk
  else if name == "textarea" then
    insertTextElement tag (.references "textarea")
    modify fun c => { c with dropLineFeed := true, framesetOk := false }
  else if name == "xmp" then
    closeParagraphInScope
    reconstructFormatting
    framesetNotOk
    insertTextElement tag (.raw "xmp")
  else if name == "iframe" then
    framesetNotOk
    insertTextElement tag (.raw "iframe")
  else if name == "noembed" || name == "noscript" then insertTextElement tag (.raw name)
  else if name == "select" then
    reconstructFormatting
    insertTag tag
    framesetNotOk
    let inTable := [.inTable, .inCaption, .inTableBody, .inRow, .inCell].contains (← get).mode
    setMode (if inTable then .inSelectInTable else .inSelect)
  else if name == "optgroup" || name == "option" then
    if (← get).currentIs ["option"] then pop
    reconstructFormatting
    insertTag tag
  else if name == "rb" || name == "rtc" then
    if ← inScope defaultScope ["ruby"] then closeImplied impliedEndNames none
    insertTag tag
  else if name == "rp" || name == "rt" then
    if ← inScope defaultScope ["ruby"] then closeImplied impliedEndNames (some "rtc")
    insertTag tag
  else if name == "math" then
    reconstructFormatting
    insertForeign .mathml name tag
  else if name == "svg" then
    reconstructFormatting
    insertForeign .svg name tag
  else if ["caption", "col", "colgroup", "frame", "head", "tbody", "td", "tfoot", "th", "thead",
      "tr"].contains name then return
  else
    reconstructFormatting
    insertTag tag

def closeForm : Build Unit := do
  let c ← get
  if c.hasOpen "template" then
    if ← inScope defaultScope ["form"] then
      closeImplied impliedEndNames none
      popUntilNamed ["form"]
  else
    modify fun c => { c with form := none }
    if let some form := c.form then
      if c.inScope defaultScope (· == form) then
        closeImplied impliedEndNames none
        close form

def bodyEndTag (name : String) : Build Outcome := do
  if name == "template" then closeTemplate
  else if name == "body" then
    if ← inScope defaultScope ["body"] then setMode .afterBody
  else if name == "html" then
    if ← inScope defaultScope ["body"] then return .again .afterBody
  else if closableNames.contains name then
    if ← inScope defaultScope [name] then
      closeImplied impliedEndNames none
      popUntilNamed [name]
  else if name == "form" then closeForm
  else if name == "p" then
    if !(← inScope buttonScope ["p"]) then
      let _ ← insertImplied "p"
    closeParagraph
  else if name == "li" || name == "dd" || name == "dt" then
    let scope := if name == "li" then listItemScope else defaultScope
    if ← inScope scope [name] then
      closeImplied impliedEndNames (some name)
      popUntilNamed [name]
  else if headingNames.contains name then
    if ← inScope defaultScope headingNames then
      closeImplied impliedEndNames none
      popUntilNamed headingNames
  else if formattingNames.contains name then closeFormatting name
  else if ["applet", "marquee", "object"].contains name then
    if ← inScope defaultScope [name] then
      closeImplied impliedEndNames none
      popUntilNamed [name]
      clearFormatting
  else if name == "br" then
    reconstructFormatting
    insertVoid ⟨"br", [], false⟩
    framesetNotOk
  else closeAnyOther name
  return .done

/-- At the end of the markup, closes the innermost template. -/
def endInTemplate : Build Outcome := do
  if !(← get).hasOpen "template" then return .done
  leaveTemplate
  return .again (← get).mode

def inBodyRules : Token → Build Outcome
  | .doctype _ | .null => return .done
  | .text blank content => do
    reconstructFormatting
    if !blank then framesetNotOk
    insertText content
    return .done
  | .comment text => finish (insertComment text)
  | .startTag tag => finish (bodyStartTag tag)
  | .endTag name => bodyEndTag name
  | .eof => do
    if (← get).templateModes.isEmpty then return .done else endInTemplate

end ApiReference.Html.Build
