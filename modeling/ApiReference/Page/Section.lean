import ApiReference.Html.Select
import ApiReference.Page.Fault
import ApiReference.Page.Prose
import ApiReference.Settings.Basic
import ApiReference.Text.Case

/-!
The sections of a page. A heading that contains an anchor starts a section, and the first
paragraph, the first block quote and the first table among its siblings belong to it, if they
stand before the next heading.
-/

namespace ApiReference.Page

open Html

structure Layout where
  heading : Selector
  anchor : Selector
  content : Selector

def Layout.ofSettings (s : LayoutSettings) : Except SelectorFault Layout := do
  return ⟨← Selector.parse s.heading, ← Selector.parse s.anchor, ← Selector.parse s.content⟩

structure Section (root : Node) where
  heading : Position root
  title : String
  /-- Whether the title starts like the name of an operation, with a small letter. -/
  startsSmall : Bool
  description : String
  notes : String
  table : Option (Position root)

/-- A list without the elements that are equal to the one right before them. -/
def dropRepeats [DecidableEq α] : List α → List α
  | [] => []
  | [a] => [a]
  | a :: b :: rest => if a = b then dropRepeats (b :: rest) else a :: dropRepeats (b :: rest)

variable {root : Node}

def Layout.contentOf (l : Layout) (root : Node) : Except PageFault (Position root) :=
  match (Position.top root).selectFirst? [l.content] with
  | some content => .ok content
  | none => .error (.noContent l.content.source)

/-- The nodes that sections start at: whatever has an anchor as its child, for every anchor
below a heading. -/
def Layout.headings (l : Layout) (content : Position root) : List (Position root) :=
  dropRepeats ((content.selectAll [l.heading, l.anchor]).filterMap Position.parent?)

/-- The first sibling after a heading that has a name, if it stands before the next heading. -/
def Layout.block? (l : Layout) (heading : Position root) (name : String) :
    Option (Position root) :=
  (heading.nextMatching? (.ofTag name)).filter fun block =>
    -- The search goes through all later siblings, so it may have passed the next heading.
    block.between (some heading) (heading.nextMatching? l.heading)

def blockProse (block : Option (Position root)) : String :=
  match block with
  | some b => Text.trimmed (prose b.node)
  | none => ""

/-- The section that starts at a heading, unless that is blank. -/
def Layout.section? (l : Layout) (heading : Position root) : Option (Section root) :=
  let title := Text.trimmed heading.node.innerText
  if title.isEmpty then none
  else some {
    heading, title
    startsSmall := title.toList.head?.any Text.isLower
    description := blockProse (l.block? heading "p")
    notes := blockProse (l.block? heading "blockquote")
    table := l.block? heading "table" }

def Layout.sections (l : Layout) (content : Position root) : List (Section root) :=
  (l.headings content).filterMap l.section?

inductive SectionKind where
  | dataType
  | operation
  deriving DecidableEq, Inhabited

namespace Section

/-- Whether the first header cell of the table reads `Field`. -/
def hasFieldTable (s : Section root) : Bool :=
  match s.table.bind fun table => table.selectFirst? [.ofTag "th"] with
  | some cell => Text.equalIgnoringCase (Text.trimmed cell.node.innerText) "field"
  | none => false

/-- What a section describes: an operation if its title starts with a small letter, unless its
table is one of fields. -/
def kind (s : Section root) : SectionKind :=
  if s.startsSmall && !s.hasFieldTable then .operation else .dataType

end Section

end ApiReference.Page
