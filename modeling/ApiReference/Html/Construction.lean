import ApiReference.Html.Categories
import ApiReference.Html.Draft
import ApiReference.Html.Scan

/-!
The state of reading markup into a document: the draft, the elements that are open, the
formatting that goes on past the ends of blocks, and which rules the next token is read by. The
operations here are the steps that those rules are made of.
-/

namespace ApiReference.Html

inductive InsertionMode where
  | initial
  | beforeHtml
  | beforeHead
  | inHead
  | afterHead
  | inBody
  | text
  | inTable
  | inTableText
  | inCaption
  | inColumnGroup
  | inTableBody
  | inRow
  | inCell
  | inSelect
  | inSelectInTable
  | inTemplate
  | afterBody
  | inFrameset
  | afterFrameset
  | afterAfterBody
  | afterAfterFrameset
  deriving DecidableEq, Inhabited

/-- Formatting that goes on: an element with the tag it was made from, or a marker that ends the
reach of the entries before it. -/
inductive FormattingEntry where
  | marker
  | element (id : Nat) (tag : Tag)
  deriving DecidableEq

structure Construction where
  draft : Draft
  mode : InsertionMode
  /-- The mode to go back to after a text or the text of a table. -/
  returnMode : InsertionMode
  /-- The modes for the contents of the open templates, innermost first. -/
  templateModes : List InsertionMode
  /-- The open elements, innermost first. -/
  openElements : List Nat
  /-- The formatting that goes on, latest first. -/
  formatting : List FormattingEntry
  head : Option Nat
  form : Option Nat
  framesetOk : Bool
  /-- Whether what is put straight into a table goes before the table instead. -/
  fostering : Bool
  /-- Whether a table leaves an open paragraph open. -/
  quirks : Bool
  /-- Whether a line feed that comes next is left out. -/
  dropLineFeed : Bool
  /-- The text read inside a table and not yet placed, latest first. -/
  tableText : List (Bool × List Char)
  scanMode : ScanMode

def Construction.start : Construction where
  draft := .empty
  mode := .initial
  returnMode := .initial
  templateModes := []
  openElements := []
  formatting := []
  head := none
  form := none
  framesetOk := true
  fostering := false
  quirks := false
  dropLineFeed := false
  tableText := []
  scanMode := .data

abbrev Build := StateM Construction

/-- What becomes of a token: it is used up, or read once more by the rules of a mode. -/
inductive Outcome where
  | done
  | again (mode : InsertionMode)

def Element.isHtml (e : Element) (names : List String) : Bool :=
  e.space == .html && names.contains e.name

/-- Whether HTML text may stand in a MathML element. -/
def Element.isMathText (e : Element) : Bool :=
  e.space == .mathml && ["mi", "mo", "mn", "ms", "mtext"].contains e.name

/-- Whether HTML may stand in an SVG element. -/
def Element.isSvgHost (e : Element) : Bool :=
  e.space == .svg && ["foreignObject", "desc", "title"].contains e.name

namespace Construction

def element? (c : Construction) (id : Nat) : Option Element := c.draft.element? id

def isHtml (c : Construction) (names : List String) (id : Nat) : Bool :=
  (c.element? id).any fun e => e.isHtml names

def current? (c : Construction) : Option Nat := c.openElements.head?

def currentIs (c : Construction) (names : List String) : Bool := c.current?.any (c.isHtml names)

def hasOpen (c : Construction) (name : String) : Bool := c.openElements.any (c.isHtml [name])

/-- Whether an open element that is wanted comes before any that ends the search. -/
def inScope (c : Construction) (ends : Element → Bool) (wanted : Nat → Bool) : Bool :=
  match c.openElements.find? fun id => wanted id || (c.element? id).any ends with
  | some id => wanted id
  | none => false

end Construction

/-- The elements that most searches for an open element end at. -/
def defaultScope (e : Element) : Bool :=
  e.isHtml ["applet", "caption", "html", "table", "td", "th", "marquee", "object", "template"] ||
    e.isMathText || e.isSvgHost

def listItemScope (e : Element) : Bool := defaultScope e || e.isHtml ["ol", "ul"]

def buttonScope (e : Element) : Bool := defaultScope e || e.isHtml ["button"]

def tableScope (e : Element) : Bool := e.isHtml ["html", "table", "template"]

def selectScope (e : Element) : Bool := !e.isHtml ["optgroup", "option"]

namespace Build

def inScope (ends : Element → Bool) (names : List String) : Build Bool :=
  return (← get).inScope ends ((← get).isHtml names)

def edit (f : Draft → Draft) : Build Unit := modify fun c => { c with draft := f c.draft }

def create (label : Label) : Build Nat :=
  modifyGet fun c =>
    let (id, draft) := c.draft.create label
    (id, { c with draft })

def createElement (space : Space) (name : String) (attributes : List Attribute) : Build Nat := do
  let id ← create (.element ⟨space, name, Attribute.merge [] attributes⟩)
  if space == .html && name == "template" then
    let contents ← create .fragment
    edit fun d => d.append id contents
  return id

def push (id : Nat) : Build Unit := modify fun c => { c with openElements := id :: c.openElements }

def pop : Build Unit := modify fun c => { c with openElements := c.openElements.drop 1 }

def popUntil (wanted : Construction → Nat → Bool) : Build Unit :=
  modify fun c =>
    { c with openElements := (c.openElements.dropWhile fun id => !wanted c id).drop 1 }

def popUntilNamed (names : List String) : Build Unit := popUntil fun c => c.isHtml names

/-- Closes elements until the innermost is an HTML element with one of the names. -/
def popToContext (names : List String) : Build Unit :=
  modify fun c =>
    { c with openElements := c.openElements.dropWhile fun id => !c.isHtml names id }

/-- Closes the innermost elements whose end can be left out, up to one called `kept`. -/
def closeImplied (names : List String) (kept : Option String) : Build Unit :=
  modify fun c =>
    { c with openElements := c.openElements.dropWhile fun id =>
        c.isHtml names id && !kept.any fun k => c.isHtml [k] id }

/-- Takes an element out of the open elements, wherever it is. -/
def close (id : Nat) : Build Unit :=
  modify fun c => { c with openElements := c.openElements.erase id }

/-! ### Where new nodes go -/

inductive Place where
  | lastIn (parent : Nat)
  /-- Before a table, or last in `fallback` if the table is not part of the document. -/
  | before (table fallback : Nat)

/-- The contents of a template, or any other node itself. -/
def contentsOf (c : Construction) (id : Nat) : Nat :=
  if c.isHtml ["template"] id then
    ((c.draft.children id).find? fun child => c.draft.label child == .fragment).getD id
  else id

/-- The place beside the innermost open table or template, where `open` are open elements. -/
def fosterPlace (c : Construction) : List Nat → Place
  | [] => .lastIn (c.openElements.getLast?.getD 0)
  | id :: outer =>
    if c.isHtml ["template"] id then .lastIn (contentsOf c id)
    else if c.isHtml ["table"] id then .before id (outer.head?.getD 0)
    else fosterPlace c outer

def placeFor (c : Construction) (target : Nat) : Place :=
  if c.fostering && c.isHtml tablePartNames target then fosterPlace c c.openElements
  else .lastIn (contentsOf c target)

def currentPlace (c : Construction) : Place := placeFor c (c.current?.getD 0)

def insertAt (place : Place) (id : Nat) : Build Unit :=
  edit fun d =>
    match place with
    | .lastIn parent => d.append parent id
    | .before table fallback =>
      if (d.parent? table).isSome then d.insertBefore table id else d.append fallback id

def insertText (content : List Char) : Build Unit :=
  modify fun c =>
    let text := String.ofList content
    let d := c.draft
    let draft := match currentPlace c with
      | .lastIn parent => d.appendText parent text
      | .before table fallback =>
        if (d.parent? table).isSome then d.insertTextBefore table text
        else d.appendText fallback text
    { c with draft }

def insertComment (text : String) : Build Unit := do
  let id ← create (.comment text)
  insertAt (currentPlace (← get)) id

def appendComment (parent : Nat) (text : String) : Build Unit := do
  let id ← create (.comment text)
  edit fun d => d.append parent id

/-- Puts a new element in the place for new nodes, without opening it. -/
def insertClosed (space : Space) (name : String) (attributes : List Attribute) : Build Nat := do
  let id ← createElement space name attributes
  insertAt (currentPlace (← get)) id
  return id

def insertElement (space : Space) (name : String) (attributes : List Attribute) : Build Nat := do
  let id ← insertClosed space name attributes
  push id
  return id

def insertTag (tag : Tag) : Build Unit := do
  let _ ← insertElement .html tag.name (plainAttributes tag.attributes)

def insertVoid (tag : Tag) : Build Unit := do
  let _ ← insertClosed .html tag.name (plainAttributes tag.attributes)

/-- Opens an HTML element without attributes that the markup leaves out. -/
def insertImplied (name : String) : Build Nat := insertElement .html name []

/-! ### Recurring steps -/

def setMode (mode : InsertionMode) : Build Unit := modify fun c => { c with mode }

/-- Rules out that a frameset takes the place of the body. -/
def framesetNotOk : Build Unit := modify fun c => { c with framesetOk := false }

/-- Opens the element of a start tag whose text is read by rules of its own. -/
def insertTextElement (tag : Tag) (scanMode : ScanMode) : Build Unit := do
  insertTag tag
  modify fun c => { c with returnMode := c.mode, mode := .text, scanMode }

def closeParagraph : Build Unit := do
  closeImplied impliedEndNames (some "p")
  popUntilNamed ["p"]

/-- Closes the paragraph that a new block ends, if there is one. -/
def closeParagraphInScope : Build Unit := do
  if ← inScope buttonScope ["p"] then closeParagraph

/-- Forgets the formatting since the last marker, and the marker. -/
def clearFormatting : Build Unit :=
  modify fun c => { c with formatting := (c.formatting.dropWhile (· != .marker)).drop 1 }

def pushMarker : Build Unit := modify fun c => { c with formatting := .marker :: c.formatting }

/-- The mode for content of the element that is innermost open once a table, a selection or a
template was closed. -/
def modeFor (c : Construction) : List Nat → InsertionMode
  | [] => .inBody
  | id :: outer =>
    let last := outer.isEmpty
    match c.element? id with
    | none => modeFor c outer
    | some e =>
      if e.space != .html then modeFor c outer
      else match e.name with
        | "select" =>
          match outer.find? (c.isHtml ["template", "table"]) with
          | some a => if c.isHtml ["table"] a then .inSelectInTable else .inSelect
          | none => .inSelect
        | "td" | "th" => if last then modeFor c outer else .inCell
        | "tr" => .inRow
        | "tbody" | "thead" | "tfoot" => .inTableBody
        | "caption" => .inCaption
        | "colgroup" => .inColumnGroup
        | "table" => .inTable
        | "template" => c.templateModes.head?.getD .inTemplate
        | "head" => if last then modeFor c outer else .inHead
        | "body" => .inBody
        | "frameset" => .inFrameset
        | "html" => if c.head.isNone then .beforeHead else .afterHead
        | _ => modeFor c outer

def currentMode : Build InsertionMode := return modeFor (← get) (← get).openElements

/-- Adds to the root element the attributes of a further `html` tag that it lacks. -/
def mergeIntoRoot (tag : Tag) : Build Unit := do
  let c ← get
  unless c.hasOpen "template" do
    if let some root := c.openElements.getLast? then mergeAttributes root tag
where
  mergeAttributes (id : Nat) (tag : Tag) : Build Unit :=
    edit fun d => d.update id fun cell =>
      match cell.label with
      | .element e =>
        let attributes := Attribute.merge e.attributes (plainAttributes tag.attributes)
        { cell with label := .element { e with attributes } }
      | _ => cell

end Build

end ApiReference.Html
