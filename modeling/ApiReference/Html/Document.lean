import ApiReference.Html.Rules

/-!
HTML documents read from markup. Any text is markup of some document.
-/

namespace ApiReference.Html

structure Document where
  root : Node
  /-- How many nodes were made while the markup was read, those that did not stay in the document
  included. -/
  nodesMade : Nat

namespace Build

/-- Reads a token by the rules that apply to it, and again as long as the rules say so; `fuel`
bounds how often. -/
def readToken (token : Token) : Nat → Build Unit
  | 0 => return
  | fuel + 1 => do
    let c ← get
    let foreign := (c.current?.bind c.element?).any fun e => isForeignContent e token
    let outcome ← if foreign then foreignRules token else rulesOf c.mode token
    match outcome with
    | .done => return
    | .again mode =>
      setMode mode
      readToken token fuel

def readDoctypeToken (d : Doctype) : Build Unit := do
  if (← get).mode == .initial then
    let id ← create (.doctype (d.name.getD ""))
    edit fun draft => draft.append 0 id
    modify fun c => { c with quirks := d.quirky, mode := .beforeHtml }

def accept (token : Token) : Build Unit := do
  let drop := (← get).dropLineFeed
  modify fun c => { c with dropLineFeed := false }
  -- Whenever a token is read again, an element was closed or the mode has changed.
  let passes := 64 + 4 * (← get).openElements.length
  match token with
  | .doctype d => readDoctypeToken d
  | .text blank content =>
    let content := if drop && content.head? == some '\n' then content.drop 1 else content
    unless content.isEmpty do readToken (.text blank content) passes
  | _ => readToken token passes

def readMarkup : Nat → List Char → Build Unit
  | 0, _ | _, [] => accept .eof
  | fuel + 1, cs => do
    let c ← get
    let foreign := (c.current?.bind c.element?).any fun e => e.space != .html
    let (tokens, rest) := scan c.scanMode foreign cs
    tokens.forM accept
    readMarkup fuel rest

end Build

def Document.describe (d : Document) : String :=
  s!"Document \x7b nodes: {d.nodesMade} \x7d"

/-- The document that markup describes. A byte order mark at its start is not part of it. -/
def Document.parse (markup : String) : Document :=
  let cs := normalizeLines markup.toList
  let cs := if cs.head? == some '\uFEFF' then cs.drop 1 else cs
  let (_, c) := (Build.readMarkup (cs.length + 1) cs).run .start
  ⟨c.draft.toNode, c.draft.cells.size⟩

end ApiReference.Html
