import ApiReference.Html.Construction

/-!
Formatting elements, such as `b` and `a`, that are closed out of order. Those that are still in
force are opened again in the next block; an end tag that crosses the borders of a block splits
the element it closes, so that the block keeps the formatting up to the tag.
-/

namespace ApiReference.Html.Build

def sinceMarker (entries : List FormattingEntry) : List FormattingEntry :=
  entries.takeWhile (· != .marker)

def entryId? : FormattingEntry → Option Nat
  | .marker => none
  | .element id _ => some id

def reopen : FormattingEntry → Build FormattingEntry
  | .marker => return .marker
  | .element _ tag => do
    let id ← insertElement .html tag.name (plainAttributes tag.attributes)
    return .element id tag

/-- Opens once more, in the order they came, the elements of formatting that is in force but was
closed with a block. -/
def reconstructFormatting : Build Unit := do
  let c ← get
  let isSettled (e : FormattingEntry) : Bool :=
    match e with
    | .marker => true
    | .element id _ => c.openElements.contains id
  let closed := c.formatting.takeWhile fun e => !isSettled e
  let settled := c.formatting.dropWhile fun e => !isSettled e
  let reopened ← closed.reverse.mapM reopen
  modify fun c => { c with formatting := reopened.reverse ++ settled }

/-- Whether two tags have one name and the same attributes in any order. -/
def sameTag (a b : Tag) : Bool :=
  a.name == b.name && a.attributes.length == b.attributes.length &&
    a.attributes.all fun x => b.attributes.contains x

/-- Opens a formatting element. Of equal ones in force no more than three are kept. -/
def insertFormatting (tag : Tag) : Build Unit := do
  let c ← get
  let equal := (sinceMarker c.formatting).filter fun e =>
    match e with
    | .marker => false
    | .element _ t => sameTag tag t
  if 3 ≤ equal.length then
    if let some earliest := equal.getLast? then
      modify fun c => { c with formatting := c.formatting.erase earliest }
  let id ← insertElement .html tag.name (plainAttributes tag.attributes)
  modify fun c => { c with formatting := .element id tag :: c.formatting }

/-- Reads an end tag that no rule is about: it closes the innermost open element of its name, and
all in that element, unless a special element is in between. -/
def closeAnyOther (name : String) : Build Unit := do
  let c ← get
  match c.openElements.find? fun id => c.isHtml [name] id || c.isHtml specialNames id with
  | none => return
  | some id =>
    unless c.isHtml [name] id do return
    let outer := (c.openElements.dropWhile (· != id)).drop 1
    modify fun c => { c with openElements := outer }

/-- Where the split half of a formatting element goes in the list of formatting. -/
inductive Bookmark where
  | replacing
  /-- Just after the entry of a node, which is just before it where the latest comes first. -/
  | after (id : Nat)

/-- The nodes between the block and the formatting element, each rebuilt around what was rebuilt
before it; `inner` is the innermost so rebuilt. At most three are kept as formatting. -/
def rebuildBetween (block : Nat) : Nat → List Nat → Nat → Bookmark → Build (Nat × Bookmark)
  | _, [], inner, bookmark => return (inner, bookmark)
  | count, node :: nodes, inner, bookmark => do
    let c ← get
    let entry := c.formatting.find? fun e => entryId? e == some node
    match entry with
    | some (.element _ tag) =>
      if 3 ≤ count then
        modify fun c =>
          { c with formatting := c.formatting.filter (fun e => entryId? e != some node)
                   openElements := c.openElements.erase node }
        rebuildBetween block (count + 1) nodes inner bookmark
      else
        let copy ← createElement .html tag.name (plainAttributes tag.attributes)
        modify fun c =>
          { c with formatting := c.formatting.map fun e =>
                     if entryId? e == some node then .element copy tag else e
                   openElements := c.openElements.map fun id => if id == node then copy else id }
        let bookmark := if inner == block then .after copy else bookmark
        edit fun d => d.append copy inner
        rebuildBetween block (count + 1) nodes copy bookmark
    | _ =>
      modify fun c => { c with openElements := c.openElements.erase node }
      rebuildBetween block (count + 1) nodes inner bookmark

def fillHalf (block half : Nat) : Build Unit :=
  edit fun d => (d.moveChildren block half).append block half

/-- Puts `half` in the place of `node` as formatting and opens it in the block. -/
def enterHalf (node block half : Nat) (tag : Tag) (bookmark : Bookmark) : Build Unit :=
  modify fun c =>
    let entry := FormattingEntry.element half tag
    let formatting := match bookmark with
      | .replacing => c.formatting.map fun e => if entryId? e == some node then entry else e
      | .after id =>
        (c.formatting.flatMap fun e =>
          if entryId? e == some id then [entry, e] else [e]).filter fun e =>
            entryId? e != some node
    let openElements := (c.openElements.erase node).flatMap fun id =>
      if id == block then [half, id] else [id]
    { c with formatting, openElements }

/-- Splits the formatting element `node` at the block `block` that is open in it, where `between`
are the nodes between them and `ancestor` is the one around `node`. -/
def splitBetween (node : Nat) (tag : Tag) (block : Nat) (between : List Nat) (ancestor : Nat) :
    Build Unit := do
  let (inner, bookmark) ← rebuildBetween block 0 between block .replacing
  edit fun d => d.detach inner
  insertAt (placeFor (← get) ancestor) inner
  let half ← createElement .html tag.name (plainAttributes tag.attributes)
  fillHalf block half
  enterHalf node block half tag bookmark

def splitAround (node : Nat) (tag : Tag) (block : Nat) : Build Unit := do
  let c ← get
  let outer := (c.openElements.dropWhile (· != node)).drop 1
  let between := ((c.openElements.dropWhile (· != block)).drop 1).takeWhile (· != node)
  splitBetween node tag block between (outer.head?.getD 0)

/-- Reads the end tag of a formatting element, at most `rounds` times: each round splits the
element at the outermost block open in it, if there is one. -/
def closeFormattingRounds (name : String) : Nat → Build Unit
  | 0 => return
  | rounds + 1 => do
    let c ← get
    let entry := (sinceMarker c.formatting).find? fun e =>
      match e with
      | .marker => false
      | .element _ t => t.name == name
    match entry with
    | some (.element node tag) =>
      if !c.openElements.contains node then
        modify fun c => { c with formatting := c.formatting.erase (.element node tag) }
      else if !c.inScope defaultScope (· == node) then return
      else
        let above := c.openElements.takeWhile (· != node)
        match above.reverse.find? (c.isHtml specialNames) with
        | none =>
          modify fun c =>
            { c with openElements := (c.openElements.dropWhile (· != node)).drop 1
                     formatting := c.formatting.erase (.element node tag) }
        | some block =>
          splitAround node tag block
          closeFormattingRounds name rounds
    | _ => closeAnyOther name

def closeFormatting (name : String) : Build Unit := do
  let c ← get
  let isPlain := c.current?.any fun id =>
    c.isHtml [name] id && !c.formatting.any fun e => entryId? e == some id
  if isPlain then pop else closeFormattingRounds name 8

/-- Reads what an open link means for a new one: links do not nest, so it is closed. -/
def closeOpenLink : Build Unit := do
  let c ← get
  let entry := (sinceMarker c.formatting).find? fun e =>
    match e with
    | .marker => false
    | .element id _ => c.isHtml ["a"] id
  match entry with
  | some (.element id _) =>
    closeFormatting "a"
    modify fun c => { c with formatting := c.formatting.filter fun e => entryId? e != some id }
    close id
  | _ => return

end ApiReference.Html.Build
