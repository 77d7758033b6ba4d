import ApiReference.Page.Section
import ApiReference.Proofs.Html.Queue
import ApiReference.Proofs.Page.Readable

/-!
Where the sections of a page start: at every node with text that has an anchor below a heading as
its child (`mem_starts`). As long as the anchors are children of the headings, that is once at each
heading with an anchor and with text, and nowhere else (`sections_start`). A heading whose anchor
stands deeper is passed over, and one inside another can be taken twice.
-/

namespace ApiReference.Page

open Html

/-! ## Repeats -/

section Repeats

variable {α β : Type} [DecidableEq α]

theorem mem_dropRepeats {a : α} {xs : List α} : a ∈ dropRepeats xs ↔ a ∈ xs := by
  fun_induction dropRepeats xs with
  | case1 => rfl
  | case2 b => rfl
  | case3 b rest ih =>
    rw [ih]
    simp
  | case4 b c rest _ ih => rw [List.mem_cons, ih, ← List.mem_cons]

theorem dropRepeats_replicate (n : Nat) (a : α) : dropRepeats (List.replicate (n + 1) a) = [a] := by
  induction n with
  | zero => rfl
  | succ n ih =>
    rw [List.replicate_succ, List.replicate_succ, dropRepeats, if_pos rfl, ← List.replicate_succ, ih]

theorem dropRepeats_append_sublist (xs ys : List α) :
    (dropRepeats (xs ++ ys)).Sublist (dropRepeats xs ++ dropRepeats ys) := by
  fun_induction dropRepeats xs with
  | case1 => exact List.Sublist.refl _
  | case2 b =>
    cases ys with
    | nil => exact List.Sublist.refl _
    | cons c rest =>
      rw [List.singleton_append, dropRepeats]
      split
      · exact List.sublist_cons_self _ _
      · exact List.Sublist.refl _
  | case3 b rest ih =>
    rw [List.cons_append, List.cons_append, dropRepeats, if_pos rfl]
    exact ih
  | case4 b c rest distinct ih =>
    rw [List.cons_append, List.cons_append, dropRepeats, if_neg distinct, List.cons_append]
    exact ih.cons_cons b

theorem dropRepeats_flatMap_sublist (f : β → List α) (xs : List β) :
    (dropRepeats (xs.flatMap f)).Sublist (xs.flatMap fun x => dropRepeats (f x)) := by
  induction xs with
  | nil => exact List.Sublist.refl _
  | cons x rest ih =>
    rw [List.flatMap_cons, List.flatMap_cons]
    exact (dropRepeats_append_sublist _ _).trans (ih.append_left _)

theorem count_dropRepeats_append_le (a : α) (xs ys : List α) :
    (dropRepeats (xs ++ ys)).count a ≤ (dropRepeats xs).count a + (dropRepeats ys).count a := by
  rw [← List.count_append]
  exact (dropRepeats_append_sublist xs ys).count_le a

/-- Of a list put together from parts of which one holds `a`, with nothing between one `a` and the
next, a single `a` is kept. -/
theorem count_dropRepeats_flatMap_le {a : α} {f : β → List α} {xs : List β} (distinct : xs.Nodup)
    (each : ∀ x ∈ xs, (dropRepeats (f x)).count a ≤ 1)
    (one : ∀ x ∈ xs, ∀ y ∈ xs, a ∈ f x → a ∈ f y → x = y) :
    (dropRepeats (xs.flatMap f)).count a ≤ 1 := by
  induction xs with
  | nil => exact Nat.zero_le _
  | cons x rest ih =>
    obtain ⟨fresh, distinct⟩ := List.nodup_cons.mp distinct
    rw [List.flatMap_cons]
    refine (count_dropRepeats_append_le a _ _).trans ?_
    by_cases held : a ∈ f x
    · have none : (dropRepeats (rest.flatMap f)).count a = 0 := by
        rw [List.count_eq_zero, mem_dropRepeats, List.mem_flatMap]
        rintro ⟨y, hy, later⟩
        obtain rfl := one x List.mem_cons_self y (List.mem_cons_of_mem x hy) held later
        exact fresh hy
      have := each x List.mem_cons_self
      omega
    · have none : (dropRepeats (f x)).count a = 0 := by
        rwa [List.count_eq_zero, mem_dropRepeats]
      have := ih distinct (fun y hy => each y (List.mem_cons_of_mem x hy)) fun y hy z hz =>
        one y (List.mem_cons_of_mem x hy) z (List.mem_cons_of_mem x hz)
      omega

end Repeats

/-! ## Headings and anchors -/

namespace Layout

variable {root : Node}

/-- Whether a heading with an anchor and with text stands below a node. -/
structure Heads (l : Layout) (content h : Position root) : Prop where
  inside : content.Below h
  heading : l.heading.matchesNode h.node = true
  anchored : ∃ a, h.Below a ∧ l.anchor.matchesNode a.node = true
  titled : Text.trimmed h.node.innerText ≠ ""

/-- Whether a node has an anchor as its child that stands below the heading `h`. -/
structure Marks (l : Layout) (content h p : Position root) : Prop where
  inside : content.Below h
  heading : l.heading.matchesNode h.node = true
  anchored : ∃ a ∈ p.children, h.Below a ∧ l.anchor.matchesNode a.node = true

/-- Whether the anchors below the headings are their children. -/
def Shallow (l : Layout) (content : Position root) : Prop :=
  ∀ h a : Position root, content.Below h → l.heading.matchesNode h.node = true →
    h.Below a → l.anchor.matchesNode a.node = true → a ∈ h.children

theorem shallow_iff {l : Layout} {content : Position root} :
    l.Shallow content ↔
      ∀ h ∈ content.matching l.heading, ∀ a ∈ h.matching l.anchor, a ∈ h.children := by
  simp only [Shallow, Position.mem_matching, and_imp]
  exact ⟨fun direct h inside heading a => direct h a inside heading,
    fun direct h a inside heading => direct h inside heading a⟩

instance (l : Layout) (content : Position root) : Decidable (l.Shallow content) :=
  decidable_of_iff' _ shallow_iff

/-- The parents of the anchors below a heading. -/
def marked (l : Layout) (h : Position root) : List (Position root) :=
  (h.matching l.anchor).filterMap Position.parent?

theorem headings_eq (l : Layout) (content : Position root) :
    l.headings content = dropRepeats ((content.matching l.heading).flatMap l.marked) := by
  rw [headings, Position.selectAll_cons, List.filterMap_flatMap]
  simp only [Position.selectAll_single]
  rfl

theorem marks_iff_mem {l : Layout} {content h p : Position root} :
    l.Marks content h p ↔ h ∈ content.matching l.heading ∧ p ∈ l.marked h := by
  rw [Position.mem_matching, marked, List.mem_filterMap]
  constructor
  · rintro ⟨inside, heading, a, child, below, isAnchor⟩
    exact ⟨⟨inside, heading⟩, a, Position.mem_matching.mpr ⟨below, isAnchor⟩,
      Position.parent?_of_mem_children child⟩
  · rintro ⟨⟨inside, heading⟩, a, found, parent⟩
    obtain ⟨below, isAnchor⟩ := Position.mem_matching.mp found
    obtain ⟨q, _, child⟩ := below.parent
    obtain rfl := Option.some.inj ((Position.parent?_of_mem_children child).symm.trans parent)
    exact ⟨inside, heading, a, child, below, isAnchor⟩

theorem mem_headings {l : Layout} {content p : Position root} :
    p ∈ l.headings content ↔ ∃ h, l.Marks content h p := by
  rw [headings_eq, mem_dropRepeats, List.mem_flatMap]
  exact exists_congr fun h => marks_iff_mem.symm

/-- The anchors of one heading count once for each of their parents. -/
theorem count_dropRepeats_marked_le (l : Layout) (h p : Position root) :
    (dropRepeats (l.marked h)).count p ≤ 1 := by
  rw [marked, Position.parents_matching]
  refine count_dropRepeats_flatMap_le ?_ (fun q _ => ?_) fun q _ r _ hq hr => ?_
  · refine List.nodup_cons.mpr ⟨fun among => ?_, h.nodup_searchOrder⟩
    exact Nat.lt_irrefl _ (Position.mem_searchOrder.mp among).length_lt
  · cases q.countChildren l.anchor with
    | zero => exact Nat.zero_le _
    | succ n =>
      rw [dropRepeats_replicate]
      exact List.count_le_length
  · exact (List.eq_of_mem_replicate hq).symm.trans (List.eq_of_mem_replicate hr)

/-- What is marked by one heading only is listed once at most. -/
theorem count_headings_le {l : Layout} {content p : Position root}
    (one : ∀ h k, l.Marks content h p → l.Marks content k p → h = k) :
    (l.headings content).count p ≤ 1 := by
  rw [headings_eq]
  exact count_dropRepeats_flatMap_le (content.nodup_matching _)
    (fun h _ => l.count_dropRepeats_marked_le h p) fun h hh k hk byH byK =>
      one h k (marks_iff_mem.mpr ⟨hh, byH⟩) (marks_iff_mem.mpr ⟨hk, byK⟩)

/-! ## Sections -/

theorem title_of_section? {l : Layout} {p : Position root} {s : Section root}
    (h : l.section? p = some s) :
    s.title = Text.trimmed s.heading.node.innerText ∧ s.title ≠ "" := by
  unfold section? at h
  dsimp only at h
  split at h
  · cases h
  · rename_i titled
    cases h
    exact ⟨rfl, by simpa using titled⟩

theorem heading_section? (l : Layout) (p : Position root) :
    (l.section? p).map Section.heading =
      Option.guard (fun p => !(Text.trimmed p.node.innerText).isEmpty) p := by
  unfold section? Option.guard
  dsimp only
  split <;> simp_all

/-- The nodes that the sections of a page start at, in order. -/
def starts (l : Layout) (content : Position root) : List (Position root) :=
  (l.sections content).map Section.heading

theorem starts_eq (l : Layout) (content : Position root) :
    l.starts content =
      (l.headings content).filter fun p => !(Text.trimmed p.node.innerText).isEmpty := by
  rw [starts, sections, List.map_filterMap, ← List.filterMap_eq_filter]
  exact List.filterMap_congr fun p _ => l.heading_section? p

theorem mem_starts {l : Layout} {content p : Position root} :
    p ∈ l.starts content ↔
      Text.trimmed p.node.innerText ≠ "" ∧ ∃ h, l.Marks content h p := by
  rw [starts_eq, List.mem_filter, mem_headings, and_comm]
  simp

/-- A node with text that is marked by one heading starts one section. -/
theorem count_starts_eq_one {l : Layout} {content p : Position root}
    (titled : Text.trimmed p.node.innerText ≠ "") (one : ∃! h, l.Marks content h p) :
    (l.starts content).count p = 1 := by
  refine Nat.le_antisymm ?_ (List.one_le_count_iff.mpr (mem_starts.mpr ⟨titled, one.exists⟩))
  rw [starts_eq]
  exact (List.filter_sublist.count_le p).trans (count_headings_le fun _ _ => one.unique)

theorem heads_iff {l : Layout} {content h : Position root} :
    l.Heads content h ↔ h ∈ content.matching l.heading ∧ h.matching l.anchor ≠ [] ∧
      Text.trimmed h.node.innerText ≠ "" := by
  rw [Position.mem_matching]
  constructor
  · rintro ⟨inside, heading, ⟨a, anchored⟩, titled⟩
    exact ⟨⟨inside, heading⟩, List.ne_nil_of_mem (Position.mem_matching.mpr anchored), titled⟩
  · rintro ⟨⟨inside, heading⟩, found, titled⟩
    obtain ⟨a, anchored⟩ := List.exists_mem_of_ne_nil _ found
    exact ⟨inside, heading, ⟨a, Position.mem_matching.mp anchored⟩, titled⟩

/-- If the anchors below the headings are their children, a heading marks itself alone. -/
theorem marks_iff {l : Layout} {content h p : Position root} (shallow : l.Shallow content)
    (titled : Text.trimmed p.node.innerText ≠ "") :
    l.Marks content h p ↔ h = p ∧ l.Heads content p := by
  constructor
  · rintro ⟨inside, heading, a, child, below, isAnchor⟩
    have direct := Position.parent?_of_mem_children (shallow h a inside heading below isAnchor)
    obtain rfl := Option.some.inj (direct.symm.trans (Position.parent?_of_mem_children child))
    exact ⟨rfl, inside, heading, ⟨a, below, isAnchor⟩, titled⟩
  · rintro ⟨rfl, inside, heading, ⟨a, below, isAnchor⟩, _⟩
    exact ⟨inside, heading, a, shallow h a inside heading below isAnchor, below, isAnchor⟩

/-- A section is titled with the text of the node it starts at. Sections start at the nodes with
text that have an anchor below a heading as their child, one at each such node unless several
headings are around that anchor. If the anchors below the headings are their children, one section
starts at each heading with an anchor and with text, and no other section does. -/
theorem sections_start (l : Layout) (content : Position root) :
    (∀ s ∈ l.sections content,
      s.title = Text.trimmed s.heading.node.innerText ∧ s.title ≠ "") ∧
    (∀ p, p ∈ l.starts content ↔
      Text.trimmed p.node.innerText ≠ "" ∧ ∃ h, l.Marks content h p) ∧
    (∀ p, Text.trimmed p.node.innerText ≠ "" → (∃! h, l.Marks content h p) →
      (l.starts content).count p = 1) ∧
    (l.Shallow content → ∀ h, (l.Heads content h → (l.starts content).count h = 1) ∧
      (¬l.Heads content h → h ∉ l.starts content)) := by
  refine ⟨fun s hs => ?_, fun p => mem_starts, fun p => count_starts_eq_one, ?_⟩
  · obtain ⟨p, _, made⟩ := List.mem_filterMap.mp hs
    exact title_of_section? made
  · intro shallow h
    refine ⟨fun heads => ?_, fun none start => ?_⟩
    · have marks (k : Position root) : l.Marks content k h ↔ k = h :=
        (marks_iff shallow heads.titled).trans (and_iff_left heads)
      exact count_starts_eq_one heads.titled ⟨h, (marks h).mpr rfl, fun k => (marks k).mp⟩
    · obtain ⟨titled, k, marks⟩ := mem_starts.mp start
      exact none ((marks_iff shallow titled).mp marks).2

/-! ### Three pages -/

section

/-- A page with three headings: one with two anchors, one in a block, and one without an anchor. -/
def flatPage : Node :=
  pageWith [block "h4" [anchorMark, anchorMark, words "A"],
    block "div" [markedHeading "B"], block "h4" [words "C"]]

private def flatBody : Position flatPage := ⟨[0, 1], _, rfl⟩

private def twoAnchors : Position flatPage := ⟨[0, 1, 0], _, rfl⟩

private def inBlock : Position flatPage := ⟨[0, 1, 1, 0], _, rfl⟩

private def unmarked : Position flatPage := ⟨[0, 1, 2], _, rfl⟩

private theorem shallow_flatPage : plainLayout.Shallow flatBody := by decide

theorem sections_start_flatPage :
    plainLayout.Shallow flatBody ∧ plainLayout.Heads flatBody twoAnchors ∧
    (plainLayout.starts flatBody).count twoAnchors = 1 ∧
    ¬plainLayout.Heads flatBody unmarked ∧ unmarked ∉ plainLayout.starts flatBody ∧
    (∃! h, plainLayout.Marks flatBody h inBlock) ∧
    (plainLayout.starts flatBody).count inBlock = 1 := by
  have heads : plainLayout.Heads flatBody twoAnchors :=
    heads_iff.mpr ⟨by decide, by decide, by cbv⟩
  have none : ¬plainLayout.Heads flatBody unmarked := fun h =>
    (heads_iff.mp h).2.1 rfl
  have titled : Text.trimmed inBlock.node.innerText ≠ "" := by cbv
  have inner : plainLayout.Heads flatBody inBlock :=
    heads_iff.mpr ⟨by decide, by decide, titled⟩
  have marked : ∃! h, plainLayout.Marks flatBody h inBlock :=
    ⟨inBlock, (marks_iff shallow_flatPage titled).mpr ⟨rfl, inner⟩,
      fun h marks => ((marks_iff shallow_flatPage titled).mp marks).1⟩
  obtain ⟨_, _, once, whole⟩ := sections_start plainLayout flatBody
  exact ⟨shallow_flatPage, heads, (whole shallow_flatPage twoAnchors).1 heads, none,
    (whole shallow_flatPage unmarked).2 none, marked, once inBlock titled marked⟩

/-- A page whose one heading has its anchor in another element. -/
def deepPage : Node := pageWith [block "h4" [block "b" [anchorMark], words "Foo"]]

private def deepBody : Position deepPage := ⟨[0, 1], _, rfl⟩

private def deepHeading : Position deepPage := ⟨[0, 1, 0], _, rfl⟩

/-- No section starts at a heading whose anchor stands deeper. -/
theorem sections_deepPage :
    plainLayout.Heads deepBody deepHeading ∧ plainLayout.sections deepBody = [] := by
  refine ⟨heads_iff.mpr ⟨by decide, by decide, by cbv⟩, ?_⟩
  have headings : plainLayout.headings deepBody = [⟨[0, 1, 0, 0], _, rfl⟩] := rfl
  rw [sections, headings]
  cbv

/-- A page with two headings inside another. -/
def nestedPage : Node :=
  pageWith [block "h4" [markedHeading "A", markedHeading "B"]]

private def nestedBody : Position nestedPage := ⟨[0, 1], _, rfl⟩

/-- Both are taken twice, and the one around them is not taken. -/
example : (plainLayout.headings nestedBody).map Position.path =
    [[0, 1, 0, 0], [0, 1, 0, 1], [0, 1, 0, 0], [0, 1, 0, 1]] := rfl

end

end Layout

end ApiReference.Page
