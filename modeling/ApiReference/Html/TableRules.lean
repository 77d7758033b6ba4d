import ApiReference.Html.BodyRules

/-!
The rules for tables. The parts of a table that may be left out are put in, and what may not
stand in a table goes before it.
-/

namespace ApiReference.Html.Build

/-- Reads a token by the rules of the body, with what would go straight into a table put before
it. -/
def fosterInBody (token : Token) : Build Outcome := do
  modify fun c => { c with fostering := true }
  let outcome ← inBodyRules token
  modify fun c => { c with fostering := false }
  return outcome

/-- The start tags that end a cell, a row or a group of rows. -/
def tableStructureNames : List String :=
  ["caption", "col", "colgroup", "tbody", "td", "tfoot", "th", "thead", "tr"]

/-- In a table, outside of its parts. -/
def inTableRules (token : Token) : Build Outcome := do
  match token with
  | .null | .text _ _ =>
    let c ← get
    if c.currentIs tablePartNames then
      modify fun c => { c with returnMode := c.mode }
      return .again .inTableText
    return ← fosterInBody token
  | .comment text => return ← finish (insertComment text)
  | .startTag tag =>
    let context := ["html", "table", "template"]
    match tag.name with
    | "caption" =>
      popToContext context
      pushMarker
      insertTag tag
      setMode .inCaption
      return .done
    | "colgroup" =>
      popToContext context
      insertTag tag
      setMode .inColumnGroup
      return .done
    | "col" =>
      popToContext context
      let _ ← insertImplied "colgroup"
      return .again .inColumnGroup
    | "tbody" | "tfoot" | "thead" =>
      popToContext context
      insertTag tag
      setMode .inTableBody
      return .done
    | "td" | "th" | "tr" =>
      popToContext context
      let _ ← insertImplied "tbody"
      return .again .inTableBody
    | "table" =>
      if ← inScope tableScope ["table"] then
        popUntilNamed ["table"]
        return .again (← currentMode)
      return .done
    | "style" | "script" | "template" => return ← inHeadRules token
    | "input" =>
      if isHiddenInput tag then return ← finish (insertVoid tag)
    | "form" =>
      let c ← get
      if !c.hasOpen "template" && c.form.isNone then
        let id ← insertClosed .html "form" (plainAttributes tag.attributes)
        modify fun c => { c with form := some id }
      return .done
    | _ => pure ()
  | .endTag name =>
    match name with
    | "table" =>
      if ← inScope tableScope ["table"] then
        popUntilNamed ["table"]
        setMode (← currentMode)
      return .done
    | "body" | "caption" | "col" | "colgroup" | "html" | "tbody" | "td" | "tfoot" | "th"
    | "thead" | "tr" => return .done
    | "template" => return ← inHeadRules token
    | _ => pure ()
  | .eof => return ← inBodyRules token
  | .doctype _ => pure ()
  fosterInBody token

/-- After text in a table, until something else comes. Text that is all blank stays in the table;
other text goes before it. -/
def inTableTextRules : Token → Build Outcome
  | .null => return .done
  | .text blank content => do
    modify fun c => { c with tableText := (blank, content) :: c.tableText }
    return .done
  | _ => do
    let c ← get
    let texts := c.tableText.reverse
    modify fun c => { c with tableText := [] }
    if texts.all (·.1) then texts.forM fun t => insertText t.2
    else texts.forM fun (blank, content) => do
      let _ ← fosterInBody (.text blank content)
    return .again c.returnMode

def inCaptionRules (token : Token) : Build Outcome := do
  let closeCaption (outcome : Outcome) : Build Outcome := do
    if ← inScope tableScope ["caption"] then
      closeImplied impliedEndNames none
      popUntilNamed ["caption"]
      clearFormatting
      setMode .inTable
      return outcome
    return .done
  match token with
  | .startTag tag =>
    if tableStructureNames.contains tag.name then closeCaption (.again .inTable)
    else inBodyRules token
  | .endTag name =>
    if name == "caption" then closeCaption .done
    else if name == "table" then closeCaption (.again .inTable)
    else if ["body", "col", "colgroup", "html", "tbody", "td", "tfoot", "th", "thead",
        "tr"].contains name then return .done
    else inBodyRules token
  | _ => inBodyRules token

def inColumnGroupRules (token : Token) : Build Outcome := do
  match token with
  | .text true content => return ← finish (insertText content)
  | .comment text => return ← finish (insertComment text)
  | .startTag tag =>
    match tag.name with
    | "html" => return ← finish (mergeIntoRoot tag)
    | "col" => return ← finish (insertVoid tag)
    | "template" => return ← inHeadRules token
    | _ => pure ()
  | .endTag name =>
    match name with
    | "colgroup" =>
      if (← get).currentIs ["colgroup"] then
        pop
        setMode .inTable
      return .done
    | "col" => return .done
    | "template" => return ← inHeadRules token
    | _ => pure ()
  | .eof => return ← inBodyRules token
  | _ => pure ()
  if (← get).currentIs ["colgroup"] then
    pop
    return .again .inTable
  return .done

def bodyContext : List String := ["tbody", "tfoot", "thead", "template", "html"]

def rowContext : List String := ["tr", "template", "html"]

def inTableBodyRules (token : Token) : Build Outcome := do
  let leave : Build Outcome := do
    if ← inScope tableScope ["table", "tbody", "tfoot"] then
      popToContext bodyContext
      pop
      return .again .inTable
    return .done
  match token with
  | .startTag tag =>
    match tag.name with
    | "tr" =>
      popToContext bodyContext
      insertTag tag
      setMode .inRow
      return .done
    | "td" | "th" =>
      popToContext bodyContext
      let _ ← insertImplied "tr"
      return .again .inRow
    | "caption" | "col" | "colgroup" | "tbody" | "tfoot" | "thead" => leave
    | _ => inTableRules token
  | .endTag name =>
    match name with
    | "tbody" | "tfoot" | "thead" =>
      if ← inScope tableScope [name] then
        popToContext bodyContext
        pop
        setMode .inTable
      return .done
    | "table" => leave
    | "body" | "caption" | "col" | "colgroup" | "html" | "td" | "th" | "tr" => return .done
    | _ => inTableRules token
  | _ => inTableRules token

def inRowRules (token : Token) : Build Outcome := do
  let leave (outcome : Outcome) : Build Outcome := do
    if ← inScope tableScope ["tr"] then
      popToContext rowContext
      pop
      setMode .inTableBody
      return outcome
    return .done
  match token with
  | .startTag tag =>
    match tag.name with
    | "td" | "th" =>
      popToContext rowContext
      insertTag tag
      setMode .inCell
      pushMarker
      return .done
    | "caption" | "col" | "colgroup" | "tbody" | "tfoot" | "thead" | "tr" =>
      leave (.again .inTableBody)
    | _ => inTableRules token
  | .endTag name =>
    match name with
    | "tr" => leave .done
    | "table" => leave (.again .inTableBody)
    | "tbody" | "tfoot" | "thead" =>
      if ← inScope tableScope [name] then leave (.again .inTableBody) else return .done
    | "body" | "caption" | "col" | "colgroup" | "html" | "td" | "th" => return .done
    | _ => inTableRules token
  | _ => inTableRules token

def inCellRules (token : Token) : Build Outcome := do
  let leave : Build Outcome := do
    closeImplied impliedEndNames none
    popUntilNamed ["td", "th"]
    clearFormatting
    return .again .inRow
  match token with
  | .startTag tag =>
    if tableStructureNames.contains tag.name then
      if ← inScope tableScope ["td", "th"] then leave else return .done
    else inBodyRules token
  | .endTag name =>
    match name with
    | "td" | "th" =>
      if ← inScope tableScope [name] then
        closeImplied impliedEndNames none
        popUntilNamed [name]
        clearFormatting
        setMode .inRow
      return .done
    | "body" | "caption" | "col" | "colgroup" | "html" => return .done
    | "table" | "tbody" | "tfoot" | "thead" | "tr" =>
      if ← inScope tableScope [name] then leave else return .done
    | _ => inBodyRules token
  | _ => inBodyRules token

end ApiReference.Html.Build
