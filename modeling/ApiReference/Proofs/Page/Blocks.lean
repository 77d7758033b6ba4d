import ApiReference.Proofs.Html.Siblings
import ApiReference.Proofs.Page.Sections

/-!
The blocks that belong to a section: the first paragraph, the first block quote and the first table
that stand after its heading and before the next heading among its siblings (`blocks_of_sections`).
If sections start at headings only, no table belongs to two of them. A block whose trimmed prose is
empty counts as one, so a section with such a paragraph has no description
(`description_blankPage`).
-/

namespace ApiReference.Page

open Html

variable {root : Node}

namespace Layout

/-! ## The stretch of a heading -/

/-- Whether a node stands after a heading among its siblings, and before the next heading if there
is one. -/
structure Owns (l : Layout) (heading b : Position root) : Prop where
  after : b ∈ heading.nextSiblings
  before : ∀ next, heading.nextMatching? l.heading = some next → next ∈ b.nextSiblings

/-- Whether a node is the first of a name that a heading owns. -/
structure IsFirst (l : Layout) (heading : Position root) (name : String) (b : Position root) :
    Prop where
  owned : l.Owns heading b
  named : (Selector.ofTag name).matchesNode b.node = true
  first : ∀ c, l.Owns heading c → (Selector.ofTag name).matchesNode c.node = true →
    c = b ∨ c ∈ b.nextSiblings

/-- Whether a heading owns nothing of a name. -/
def Lacks (l : Layout) (heading : Position root) (name : String) : Prop :=
  ∀ b, l.Owns heading b → (Selector.ofTag name).matchesNode b.node = false

theorem owns_iff_between {l : Layout} {heading b : Position root} :
    l.Owns heading b ↔
      b.between (some heading) (heading.nextMatching? l.heading) = true := by
  rw [Position.between_iff]
  constructor
  · rintro ⟨after, before⟩
    exact ⟨after, fun next found _ => before next found⟩
  · rintro ⟨after, before⟩
    refine ⟨after, fun next found => before next found ?_⟩
    exact List.mem_of_find?_eq_some found

/-- What stands before a node that a heading owns, and after the heading, is owned as well. -/
theorem Owns.earlier {l : Layout} {heading b c : Position root} (h : l.Owns heading b)
    (after : c ∈ heading.nextSiblings) (before : b ∈ c.nextSiblings) : l.Owns heading c :=
  ⟨after, fun next found => Position.mem_nextSiblings_trans before (h.before next found)⟩

/-- The first sibling of a name after a heading, and where it stands. -/
private theorem nextMatching?_eq_some {heading b : Position root} {s : Selector}
    (h : heading.nextMatching? s = some b) :
    b ∈ heading.nextSiblings ∧ s.matchesNode b.node = true ∧
      ∀ c ∈ heading.nextSiblings, s.matchesNode c.node = true → c = b ∨ c ∈ b.nextSiblings := by
  obtain ⟨named, before, after, split, none⟩ := List.find?_eq_some_iff_append.mp h
  refine ⟨List.mem_of_find?_eq_some h, named, fun c among matching => ?_⟩
  rw [Position.nextSiblings_of_append split]
  rw [split, List.mem_append, List.mem_cons] at among
  refine among.resolve_left fun early => ?_
  have differs := none c early
  rw [matching] at differs
  cases differs

theorem exists_nextMatching? {heading c : Position root} {s : Selector}
    (among : c ∈ heading.nextSiblings) (matching : s.matchesNode c.node = true) :
    ∃ b, heading.nextMatching? s = some b := by
  exact Option.isSome_iff_exists.mp (List.find?_isSome.mpr ⟨c, among, matching⟩)

theorem block?_eq_some {l : Layout} {heading b : Position root} {name : String} :
    l.block? heading name = some b ↔ l.IsFirst heading name b := by
  rw [block?, Option.filter_eq_some_iff, ← owns_iff_between]
  constructor
  · rintro ⟨found, owned⟩
    obtain ⟨_, named, first⟩ := nextMatching?_eq_some found
    exact ⟨owned, named, fun c among => first c among.after⟩
  · rintro ⟨owned, named, first⟩
    obtain ⟨b', found⟩ := exists_nextMatching? owned.after named
    obtain ⟨after, named', first'⟩ := nextMatching?_eq_some found
    rcases first' b owned.after named with rfl | later
    · exact ⟨found, owned⟩
    · exfalso
      rcases first b' (owned.earlier after later) named' with rfl | earlier
      · exact Position.not_mem_nextSiblings_self _ later
      · exact Position.not_mem_nextSiblings_self _ (Position.mem_nextSiblings_trans later earlier)

theorem block?_eq_none {l : Layout} {heading : Position root} {name : String} :
    l.block? heading name = none ↔ l.Lacks heading name := by
  constructor
  · intro none c owned
    by_contra named
    rw [Bool.not_eq_false] at named
    obtain ⟨b, found⟩ := exists_nextMatching? owned.after named
    obtain ⟨after, _, first⟩ := nextMatching?_eq_some found
    have inside : l.Owns heading b := by
      rcases first c owned.after named with rfl | later
      · exact owned
      · exact owned.earlier after later
    have some : l.block? heading name = some b := by
      rw [block?, Option.filter_eq_some_iff, ← owns_iff_between]
      exact ⟨found, inside⟩
    rw [none] at some
    cases some
  · intro lacks
    cases found : l.block? heading name with
    | none => rfl
    | some b =>
      have first := block?_eq_some.mp found
      have named := first.named
      rw [lacks b first.owned] at named
      cases named

/-! ## The blocks of a section -/

/-- Whether a text is the prose of the first node of a name that a heading owns, and empty if there
is none. -/
structure Quotes (l : Layout) (heading : Position root) (name text : String) : Prop where
  quoted : ∀ b, l.IsFirst heading name b → text = Text.trimmed (prose b.node)
  empty_iff : text = "" ↔
    l.Lacks heading name ∨ ∃ b, l.IsFirst heading name b ∧ Text.trimmed (prose b.node) = ""

/-- Whether what a section holds are the first blocks that its heading owns. -/
structure Furnishes (l : Layout) (s : Section root) : Prop where
  description : l.Quotes s.heading "p" s.description
  notes : l.Quotes s.heading "blockquote" s.notes
  table : ∀ b, s.table = some b ↔ l.IsFirst s.heading "table" b
  tableless : s.table = none ↔ l.Lacks s.heading "table"

/-- Whether the anchors that are found are children of headings. -/
def Direct (l : Layout) (content : Position root) : Prop :=
  ∀ a ∈ content.selectAll [l.heading, l.anchor],
    ∃ h : Position root, l.heading.matchesNode h.node = true ∧ a ∈ h.children

theorem of_section? {l : Layout} {p : Position root} {s : Section root}
    (h : l.section? p = some s) :
    s.heading = p ∧ s.description = blockProse (l.block? p "p") ∧
      s.notes = blockProse (l.block? p "blockquote") ∧ s.table = l.block? p "table" := by
  unfold section? at h
  dsimp only at h
  split at h
  · cases h
  · cases h
    exact ⟨rfl, rfl, rfl, rfl⟩

theorem quotes_blockProse (l : Layout) (heading : Position root) (name : String) :
    l.Quotes heading name (blockProse (l.block? heading name)) := by
  cases found : l.block? heading name with
  | none =>
    have lacks := block?_eq_none.mp found
    refine ⟨fun b first => ?_, ⟨fun _ => .inl lacks, fun _ => rfl⟩⟩
    rw [block?_eq_some.mpr first] at found
    cases found
  | some b =>
    have isFirst := block?_eq_some.mp found
    have only (c : Position root) (first : l.IsFirst heading name c) : c = b := by
      rw [block?_eq_some.mpr first] at found
      exact Option.some.inj found
    constructor
    · intro c first
      rw [only c first, blockProse]
    · constructor
      · exact fun blank => .inr ⟨b, isFirst, blank⟩
      · rintro (lacks | ⟨c, first, blank⟩)
        · rw [block?_eq_none.mpr lacks] at found
          cases found
        · rw [only c first] at blank
          exact blank

theorem furnishes_of_section? {l : Layout} {p : Position root} {s : Section root}
    (h : l.section? p = some s) : l.Furnishes s := by
  obtain ⟨rfl, description, notes, table⟩ := of_section? h
  constructor
  · rw [description]
    exact l.quotes_blockProse _ _
  · rw [notes]
    exact l.quotes_blockProse _ _
  · intro b
    rw [table, block?_eq_some]
  · rw [table, block?_eq_none]

theorem heading_of_direct {l : Layout} {content : Position root} (direct : l.Direct content)
    {s : Section root} (h : s ∈ l.sections content) :
    l.heading.matchesNode s.heading.node = true := by
  obtain ⟨p, start, made⟩ := List.mem_filterMap.mp h
  rw [headings, mem_dropRepeats] at start
  obtain ⟨a, found, parent⟩ := List.mem_filterMap.mp start
  obtain ⟨k, heading, child⟩ := direct a found
  obtain rfl := Option.some.inj ((Position.parent?_of_mem_children child).symm.trans parent)
  rw [(of_section? made).1]
  exact heading

/-- What a heading owns stands before any later heading among its siblings. -/
theorem Owns.not_after {l : Layout} {heading b k : Position root} (h : l.Owns heading b)
    (later : k ∈ heading.nextSiblings) (isHeading : l.heading.matchesNode k.node = true) :
    b ∉ k.nextSiblings := by
  intro after
  obtain ⟨next, found⟩ := exists_nextMatching? later isHeading
  have before := h.before next found
  obtain ⟨_, _, first⟩ := nextMatching?_eq_some found
  refine Position.not_mem_nextSiblings_self b ?_
  rcases first k later isHeading with rfl | further
  · exact Position.mem_nextSiblings_trans before after
  · exact Position.mem_nextSiblings_trans before (Position.mem_nextSiblings_trans further after)

/-- Different headings own different nodes. -/
theorem Owns.unique {l : Layout} {h k b : Position root} (byH : l.Owns h b) (byK : l.Owns k b)
    (isH : l.heading.matchesNode h.node = true) (isK : l.heading.matchesNode k.node = true) :
    h = k := by
  rcases Position.comparable_of_nextSiblings byH.after byK.after with same | later | later
  · exact same
  · exact absurd byK.after (byH.not_after later isK)
  · exact absurd byH.after (byK.not_after later isH)

/-- A section holds the prose of the first paragraph and the first block quote, and the first
table, of those that stand after its heading and before the next heading among its siblings. It has
no table just if there is none there, and no description or notes just if there is no such block or
its trimmed prose is empty. If the anchors are children of headings, sections with different
headings have different tables. -/
theorem blocks_of_sections (l : Layout) (content : Position root) (direct : l.Direct content) :
    (∀ s ∈ l.sections content, l.Furnishes s) ∧
    ∀ s ∈ l.sections content, ∀ t ∈ l.sections content, s.heading ≠ t.heading →
      ∀ b, s.table = some b → t.table ≠ some b := by
  have furnishes (s : Section root) (hs : s ∈ l.sections content) : l.Furnishes s := by
    obtain ⟨p, _, made⟩ := List.mem_filterMap.mp hs
    exact furnishes_of_section? made
  refine ⟨furnishes, fun s hs t ht differ b ofS ofT => differ ?_⟩
  have byS := ((furnishes s hs).table b).mp ofS
  have byT := ((furnishes t ht).table b).mp ofT
  exact byS.owned.unique byT.owned (heading_of_direct direct hs) (heading_of_direct direct ht)

/-! ### Two pages -/

section

/-- A page with two sections that have tables, and between them a heading without an anchor that
has a paragraph. -/
def mixedPage : Node :=
  pageWith [markedHeading "A", block "table" [], block "h4" [words "C"], block "p" [words "D"],
    markedHeading "B", block "table" []]

private def mixedBody : Position mixedPage := ⟨[0, 1], _, rfl⟩

private def firstHeading : Position mixedPage := ⟨[0, 1, 0], _, rfl⟩

private def secondHeading : Position mixedPage := ⟨[0, 1, 4], _, rfl⟩

private theorem direct_mixedPage : plainLayout.Direct mixedBody := by
  have anchors : mixedBody.selectAll [plainLayout.heading, plainLayout.anchor] =
      [⟨[0, 1, 0, 0], _, rfl⟩, ⟨[0, 1, 4, 0], _, rfl⟩] := by decide +kernel
  intro a found
  rw [anchors, List.mem_cons, List.mem_singleton] at found
  rcases found with rfl | rfl
  · exact ⟨firstHeading, by decide +kernel, by decide +kernel⟩
  · exact ⟨secondHeading, by decide +kernel, by decide +kernel⟩

private theorem sections_mixedPage :
    ∃ s t, plainLayout.sections mixedBody = [s, t] ∧
      s.heading = firstHeading ∧ t.heading = secondHeading := by
  have headings : plainLayout.headings mixedBody = [firstHeading, secondHeading] := by
    decide +kernel
  have first : Text.trimmed firstHeading.node.innerText = "A" := by cbv
  have second : Text.trimmed secondHeading.node.innerText = "B" := by cbv
  rw [sections, headings, List.filterMap_cons, List.filterMap_cons, section?, section?, first,
    second]
  exact ⟨_, _, rfl, rfl, rfl⟩

theorem blocks_of_mixedPage :
    plainLayout.Direct mixedBody ∧
    ∃ s ∈ plainLayout.sections mixedBody, ∃ t ∈ plainLayout.sections mixedBody,
      plainLayout.Furnishes s ∧ plainLayout.Furnishes t ∧ s.heading ≠ t.heading ∧
      s.description = "" ∧ ∃ b, s.table = some b ∧ t.table ≠ some b := by
  obtain ⟨s, t, both, hs, ht⟩ := sections_mixedPage
  have among : s ∈ plainLayout.sections mixedBody := by simp [both]
  have among' : t ∈ plainLayout.sections mixedBody := by simp [both]
  obtain ⟨furnishes, apart⟩ := blocks_of_sections plainLayout mixedBody direct_mixedPage
  have differ : s.heading ≠ t.heading := by
    rw [hs, ht]
    decide +kernel
  have paragraph : plainLayout.block? firstHeading "p" = none := by decide +kernel
  have table : plainLayout.block? firstHeading "table" = some ⟨[0, 1, 1], _, rfl⟩ := by
    decide +kernel
  have silent : s.description = "" := by
    refine (furnishes s among).description.empty_iff.mpr (.inl ?_)
    rw [hs]
    exact block?_eq_none.mp paragraph
  have has : s.table = some ⟨[0, 1, 1], _, rfl⟩ := by
    rw [(furnishes s among).table, hs]
    exact block?_eq_some.mp table
  exact ⟨direct_mixedPage, s, among, t, among', furnishes s among, furnishes t among', differ,
    silent, _, has, apart s among t among' differ _ has⟩

/-- A page with a heading, an empty paragraph and a paragraph with text. -/
def blankPage : Node :=
  pageWith [markedHeading "A", block "p" [], block "p" [words "B"]]

private def blankBody : Position blankPage := ⟨[0, 1], _, rfl⟩

private def blankHeading : Position blankPage := ⟨[0, 1, 0], _, rfl⟩

/-- A section has no description if the trimmed prose of its first paragraph is empty. -/
theorem description_blankPage :
    plainLayout.Direct blankBody ∧
    ∃ s ∈ plainLayout.sections blankBody,
      s.description = "" ∧ ¬plainLayout.Lacks s.heading "p" := by
  have anchors : blankBody.selectAll [plainLayout.heading, plainLayout.anchor] =
      [⟨[0, 1, 0, 0], _, rfl⟩] := by decide +kernel
  have headings : plainLayout.headings blankBody = [blankHeading] := by decide +kernel
  have title : Text.trimmed blankHeading.node.innerText = "A" := by cbv
  have paragraph : plainLayout.block? blankHeading "p" = some ⟨[0, 1, 1], _, rfl⟩ := by
    decide +kernel
  have blank : blockProse (plainLayout.block? blankHeading "p") = "" := by
    rw [paragraph]
    cbv
  refine ⟨fun a found => ?_, ?_⟩
  · rw [anchors, List.mem_singleton] at found
    rw [found]
    exact ⟨blankHeading, by decide +kernel, by decide +kernel⟩
  · rw [sections, headings, List.filterMap_cons, section?, title]
    refine ⟨_, List.mem_cons_self, blank, ?_⟩
    rw [← block?_eq_none, paragraph]
    exact Option.some_ne_none _

end

end Layout

end ApiReference.Page
