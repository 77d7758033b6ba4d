import ApiReference.Html.TableRules

/-!
The rules for selections, templates and framesets, the rules for content of other vocabularies,
and the choice of the rules that a token is read by.
-/

namespace ApiReference.Html.Build

/-- In an element whose text is read by rules of its own. -/
def textRules : Token → Build Outcome
  | .text _ content => finish (insertText content)
  | .eof => do
    pop
    return .again (← get).returnMode
  | .endTag _ => do
    pop
    modify fun c => { c with mode := c.returnMode, scanMode := .data }
    return .done
  | _ => return .done

def inSelectRules (token : Token) : Build Outcome := do
  let closeCurrent (names : List String) : Build Unit := do
    if (← get).currentIs names then pop
  match token with
  | .null | .doctype _ => return .done
  | .text _ content => finish (insertText content)
  | .comment text => finish (insertComment text)
  | .startTag tag =>
    match tag.name with
    | "html" => finish (mergeIntoRoot tag)
    | "option" =>
      closeCurrent ["option"]
      finish (insertTag tag)
    | "optgroup" =>
      closeCurrent ["option"]
      closeCurrent ["optgroup"]
      finish (insertTag tag)
    | "hr" =>
      closeCurrent ["option"]
      closeCurrent ["optgroup"]
      finish (insertVoid tag)
    | "select" =>
      if ← inScope selectScope ["select"] then
        popUntilNamed ["select"]
        setMode (← currentMode)
      return .done
    | "input" | "keygen" | "textarea" =>
      if ← inScope selectScope ["select"] then
        popUntilNamed ["select"]
        return .again (← currentMode)
      return .done
    | "script" | "template" => inHeadRules token
    | _ => return .done
  | .endTag name =>
    match name with
    | "optgroup" =>
      let c ← get
      match c.openElements with
      | option :: group :: _ =>
        if c.isHtml ["option"] option && c.isHtml ["optgroup"] group then pop
      | _ => pure ()
      finish (closeCurrent ["optgroup"])
    | "option" => finish (closeCurrent ["option"])
    | "select" =>
      if ← inScope selectScope ["select"] then
        popUntilNamed ["select"]
        setMode (← currentMode)
      return .done
    | "template" => inHeadRules token
    | _ => return .done
  | .eof => inBodyRules token

/-- In a selection in a table, which the parts of the table end. -/
def inSelectInTableRules (token : Token) : Build Outcome := do
  let names := ["caption", "table", "tbody", "tfoot", "thead", "tr", "td", "th"]
  let leave : Build Outcome := do
    popUntilNamed ["select"]
    return .again (← currentMode)
  match token with
  | .startTag tag => if names.contains tag.name then leave else inSelectRules token
  | .endTag name =>
    if !names.contains name then inSelectRules token
    else if ← inScope tableScope [name] then leave
    else return .done
  | _ => inSelectRules token

/-- In a template, before it is known what kind of content it has. -/
def inTemplateRules (token : Token) : Build Outcome := do
  let goOn (mode : InsertionMode) : Build Outcome := do
    modify fun c => { c with templateModes := mode :: c.templateModes.drop 1 }
    return .again mode
  match token with
  | .text _ _ | .comment _ => inBodyRules token
  | .startTag tag =>
    if headNames.contains tag.name then inHeadRules token
    else match tag.name with
      | "caption" | "colgroup" | "tbody" | "tfoot" | "thead" => goOn .inTable
      | "col" => goOn .inColumnGroup
      | "tr" => goOn .inTableBody
      | "td" | "th" => goOn .inRow
      | _ => goOn .inBody
  | .endTag name => if name == "template" then inHeadRules token else return .done
  | .eof => endInTemplate
  | .null | .doctype _ => return .done

/-- After the end of the body. Anything but comments and blanks goes on with it. -/
def afterBodyRules (token : Token) : Build Outcome := do
  match token with
  | .text true _ => inBodyRules token
  | .comment text =>
    let root := ((← get).openElements.getLast?).getD 0
    finish (appendComment root text)
  | .startTag tag =>
    if tag.name == "html" then inBodyRules token else return .again .inBody
  | .endTag name =>
    if name == "html" then
      setMode .afterAfterBody
      return .done
    else return .again .inBody
  | .eof => return .done
  | _ => return .again .inBody

def inFramesetRules (token : Token) : Build Outcome := do
  match token with
  | .text true content => finish (insertText content)
  | .comment text => finish (insertComment text)
  | .startTag tag =>
    match tag.name with
    | "html" => finish (mergeIntoRoot tag)
    | "frameset" => finish (insertTag tag)
    | "frame" => finish (insertVoid tag)
    | "noframes" => inHeadRules token
    | _ => return .done
  | .endTag name =>
    let c ← get
    if name == "frameset" && c.openElements.length != 1 then
      pop
      if !(← get).currentIs ["frameset"] then setMode .afterFrameset
    return .done
  | _ => return .done

def afterFramesetRules (token : Token) : Build Outcome := do
  match token with
  | .text true content => finish (insertText content)
  | .comment text => finish (insertComment text)
  | .startTag tag =>
    match tag.name with
    | "html" => finish (mergeIntoRoot tag)
    | "noframes" => inHeadRules token
    | _ => return .done
  | .endTag name =>
    if name == "html" then setMode .afterAfterFrameset
    return .done
  | _ => return .done

def afterAfterBodyRules (token : Token) : Build Outcome := do
  match token with
  | .text true _ => inBodyRules token
  | .comment text => finish (appendComment 0 text)
  | .startTag tag =>
    if tag.name == "html" then inBodyRules token else return .again .inBody
  | .eof => return .done
  | _ => return .again .inBody

def afterAfterFramesetRules (token : Token) : Build Outcome := do
  match token with
  | .text true _ => inBodyRules token
  | .comment text => finish (appendComment 0 text)
  | .startTag tag =>
    match tag.name with
    | "html" => inBodyRules token
    | "noframes" => inHeadRules token
    | _ => return .done
  | _ => return .done

def rulesOf : InsertionMode → Token → Build Outcome
  | .initial => initialRules
  | .beforeHtml => beforeHtmlRules
  | .beforeHead => beforeHeadRules
  | .inHead => inHeadRules
  | .afterHead => afterHeadRules
  | .inBody => inBodyRules
  | .text => textRules
  | .inTable => inTableRules
  | .inTableText => inTableTextRules
  | .inCaption => inCaptionRules
  | .inColumnGroup => inColumnGroupRules
  | .inTableBody => inTableBodyRules
  | .inRow => inRowRules
  | .inCell => inCellRules
  | .inSelect => inSelectRules
  | .inSelectInTable => inSelectInTableRules
  | .inTemplate => inTemplateRules
  | .afterBody => afterBodyRules
  | .inFrameset => inFramesetRules
  | .afterFrameset => afterFramesetRules
  | .afterAfterBody => afterAfterBodyRules
  | .afterAfterFrameset => afterAfterFramesetRules

/-! ### Other vocabularies -/

/-- Whether a token is content of another vocabulary than HTML's, where `e` is the innermost open
element. -/
def isForeignContent (e : Element) (token : Token) : Bool :=
  match token with
  | .eof => false
  | .text _ _ | .null => e.space != .html && !e.isMathText && !e.isSvgHost
  | .startTag tag =>
    e.space != .html && !e.isSvgHost &&
      !(e.isMathText && tag.name != "mglyph" && tag.name != "malignmark") &&
      !(e.space == .mathml && e.name == "annotation-xml" && tag.name == "svg")
  | .endTag _ | .comment _ | .doctype _ => e.space != .html

def breaksOut (tag : Tag) : Bool :=
  breakoutNames.contains tag.name ||
    (tag.name == "font" && tag.attributes.any fun a => ["color", "face", "size"].contains a.1)

/-- Closes the elements of other vocabularies that HTML may not stand in. -/
def leaveForeign : Build Unit :=
  modify fun c =>
    { c with openElements := c.openElements.dropWhile fun id =>
        !(c.element? id).all fun e => e.space == .html || e.isMathText || e.isSvgHost }

/-- Opens an element in the vocabulary of the innermost open one. -/
def foreignStartTag (tag : Tag) : Build Unit := do
  let c ← get
  let space := ((c.current?.bind c.element?).map Element.space).getD .html
  let name := if space == .svg then respell svgElementNames tag.name else tag.name
  insertForeign space name tag

inductive ForeignClose where
  | upTo (outer : List Nat)
  | html
  | nothing

/-- Finds what an end tag closes among the open elements: the innermost of its name, in any ASCII
letter case, before the first HTML element; `first` says that none was looked at yet. -/
def findForeignClose (c : Construction) (name : String) (first : Bool) :
    List Nat → ForeignClose
  | [] | [_] => .nothing
  | id :: outer =>
    match c.element? id with
    | none => .nothing
    | some e =>
      if !first && e.space == .html then .html
      else if Text.equalIgnoringCase e.name name then .upTo outer
      else findForeignClose c name false outer

def foreignRules (token : Token) : Build Outcome := do
  match token with
  | .null => finish (insertText [replacement])
  | .text blank content =>
    if !blank then framesetNotOk
    finish (insertText content)
  | .comment text => finish (insertComment text)
  | .startTag tag =>
    if breaksOut tag then
      leaveForeign
      rulesOf (← get).mode token
    else finish (foreignStartTag tag)
  | .endTag name =>
    if name == "br" || name == "p" then
      leaveForeign
      rulesOf (← get).mode token
    else
      let c ← get
      match findForeignClose c name true c.openElements with
      | .upTo outer =>
        modify fun c => { c with openElements := outer }
        return .done
      | .html => rulesOf c.mode token
      | .nothing => return .done
  | .doctype _ | .eof => return .done

end ApiReference.Html.Build
