import ApiReference.Proofs.Bindings.Source
import ApiReference.Proofs.Page.Entries
import ApiReference.Proofs.Page.Sections

/-!
The order in which the sections of a page come. They follow the headings in the order of a search,
the higher ones first, and that is the order of the document just if no section starts higher than
one before it in the document (`catalog_inOrder`). A page with a heading in a block and one after
that block has its sections in another order (`starts_blockPage`). Whatever the sections, the
catalog and the generated source keep their order.
-/

namespace ApiReference.Page

open Html

variable {root : Node}

/-! ## Sections -/

namespace Layout

/-- Whether a section at `p` is looked for before one at `q`: for an earlier heading, or for the
same one at an earlier place. -/
def Before (l : Layout) (content p q : Position root) : Prop :=
  ∃ h k, l.Marks content h p ∧ l.Marks content k q ∧ (h.Earlier k ∨ h = k ∧ p.Earlier q)

private theorem eq_of_mem_dropRepeats_replicate {α : Type} [DecidableEq α] {n : Nat} {a b : α}
    (h : b ∈ dropRepeats (List.replicate n a)) : b = a :=
  List.eq_of_mem_replicate (mem_dropRepeats.mp h)

/-- What one heading marks is listed in the order of a search. -/
theorem sorted_marked (l : Layout) (h : Position root) :
    (dropRepeats (l.marked h)).Pairwise Position.Earlier := by
  have whole : (h :: h.searchOrder).Pairwise Position.Earlier := by
    refine List.Pairwise.cons (fun q below => ?_) h.sorted_searchOrder
    exact .of_length_lt (Position.mem_searchOrder.mp below).length_lt
  -- A parent is listed once for each of its anchors, in one run of which a single one is kept.
  rw [marked, Position.parents_matching]
  refine List.Pairwise.sublist (dropRepeats_flatMap_sublist _ _) ?_
  refine List.pairwise_flatMap.mpr ⟨fun q _ => ?_, whole.imp fun before c hc d hd => ?_⟩
  · cases q.countChildren l.anchor with
    | zero => exact .nil
    | succ n =>
      rw [dropRepeats_replicate]
      exact List.pairwise_singleton _ _
  · rw [eq_of_mem_dropRepeats_replicate hc, eq_of_mem_dropRepeats_replicate hd]
    exact before

theorem headings_before (l : Layout) (content : Position root) :
    (l.headings content).Pairwise (l.Before content) := by
  rw [headings_eq]
  refine List.Pairwise.sublist (dropRepeats_flatMap_sublist _ _) ?_
  rw [List.pairwise_flatMap]
  constructor
  · intro h found
    refine (l.sorted_marked h).imp_of_mem fun hp hq before => ⟨h, h, ?_, ?_, .inr ⟨rfl, before⟩⟩
    · exact marks_iff_mem.mpr ⟨found, mem_dropRepeats.mp hp⟩
    · exact marks_iff_mem.mpr ⟨found, mem_dropRepeats.mp hq⟩
  · refine (content.sorted_searchOrder.filter _).imp_of_mem ?_
    intro h k hh hk before p hp q hq
    refine ⟨h, k, ?_, ?_, .inl before⟩
    · exact marks_iff_mem.mpr ⟨hh, mem_dropRepeats.mp hp⟩
    · exact marks_iff_mem.mpr ⟨hk, mem_dropRepeats.mp hq⟩

theorem starts_before (l : Layout) (content : Position root) :
    (l.starts content).Pairwise (l.Before content) := by
  rw [starts_eq]
  exact (l.headings_before content).filter _

/-- If the anchors below the headings are their children, the sections come in the order of a
search. -/
theorem sorted_starts {l : Layout} {content : Position root} (shallow : l.Shallow content) :
    (l.starts content).Pairwise Position.Earlier := by
  refine (l.starts_before content).imp_of_mem fun {p q} hp hq before => ?_
  obtain ⟨h, k, marksP, marksQ, order⟩ := before
  obtain ⟨rfl, _⟩ := (marks_iff shallow (mem_starts.mp hp).1).mp marksP
  obtain ⟨rfl, _⟩ := (marks_iff shallow (mem_starts.mp hq).1).mp marksQ
  rcases order with earlier | ⟨_, earlier⟩
  · exact earlier
  · exact earlier

end Layout

/-! ## Catalogs and source -/

/-- The sections of a page come in the order in which the headings are searched, those of one
heading in the order in which its anchors are. If the anchors below the headings are their children,
that is the order of the document just if no section starts higher than one before it in the
document. The data types and the operations of the catalog come in the order of the sections, and so
do the structures and the methods of the generated source. -/
theorem catalog_inOrder (settings : LayoutSettings) (output : OutputSettings) (root : Node) :
    (∀ (l : Layout) (content : Position root),
      (l.starts content).Pairwise (l.Before content) ∧
      (l.Shallow content →
        ((l.starts content).Pairwise Position.Precedes ↔
          ∀ p ∈ l.starts content, ∀ q ∈ l.starts content,
            p.Precedes q → p.path.length ≤ q.path.length))) ∧
    ∀ c, catalog settings root = .ok c →
      ∃ l content, Layout.ofSettings settings = .ok l ∧ l.contentOf root = .ok content ∧
        c = described c.registry (l.sections content) ∧
        Text.InOrder (c.types.map fun t => Bindings.structOpening t.name)
          (Bindings.models c.types).toList ∧
        Text.InOrder (c.operations.map fun o => Bindings.methodOpening (Identifier.method o.name))
          (Bindings.client output c.operations).toList := by
  refine ⟨fun l content => ⟨l.starts_before content, fun shallow => ?_⟩, fun c h => ?_⟩
  · exact Position.pairwise_precedes_iff (Layout.sorted_starts shallow)
  · obtain ⟨l, content, parsed, found, whole⟩ := described_of_catalog h
    exact ⟨l, content, parsed, found, whole, Bindings.models_inOrder _,
      Bindings.client_inOrder _ _⟩

/-! ### Two pages -/

section

/-- A page with two sections of the same title, each with a table. -/
def twinPage : Node :=
  pageWith [markedHeading "A", block "table" [], markedHeading "A", block "table" []]

private def twinBody : Position twinPage := ⟨[0, 1], _, rfl⟩

private def firstTwin : Position twinPage := ⟨[0, 1, 0], _, rfl⟩

private def secondTwin : Position twinPage := ⟨[0, 1, 2], _, rfl⟩

private def twinSections : List (Section twinPage) :=
  [⟨firstTwin, "A", false, "", "", some ⟨[0, 1, 1], _, rfl⟩⟩,
    ⟨secondTwin, "A", false, "", "", some ⟨[0, 1, 3], _, rfl⟩⟩]

private theorem sections_twinPage : plainLayout.sections twinBody = twinSections := by
  have headings : plainLayout.headings twinBody = [firstTwin, secondTwin] := by decide +kernel
  have first : plainLayout.section? firstTwin = twinSections[0] := by
    refine Layout.section?_of_table ?_ ?_ ?_ ?_ ?_
    · cbv
    · decide
    all_goals decide +kernel
  have second : plainLayout.section? secondTwin = twinSections[1] := by
    refine Layout.section?_of_table ?_ ?_ ?_ ?_ ?_
    · cbv
    · decide
    all_goals decide +kernel
  rw [Layout.sections, headings, List.filterMap_cons, List.filterMap_cons, first, second]
  rfl

/-- What that page describes. -/
def twinCatalog : Catalog := ⟨[⟨"A", "", "", []⟩, ⟨"A", "", "", []⟩], []⟩

theorem catalog_twinPage : catalog {} twinPage = .ok twinCatalog := by
  have made : catalogOf twinSections = .ok twinCatalog := by
    rw [catalogOf, twinSections, List.mapM_cons, List.mapM_cons,
      entry?_of_rows_nil (by decide +kernel) rfl (by decide +kernel),
      entry?_of_rows_nil (by decide +kernel) rfl (by decide +kernel)]
    rfl
  exact catalog_pageWith sections_twinPage made

theorem catalog_inOrder_twinPage :
    plainLayout.Shallow twinBody ∧ (plainLayout.starts twinBody).Pairwise Position.Precedes ∧
    catalog {} twinPage = .ok twinCatalog ∧
      Text.InOrder (twinCatalog.types.map fun t => Bindings.structOpening t.name)
        (Bindings.models twinCatalog.types).toList := by
  obtain ⟨sections, whole⟩ := catalog_inOrder {} {} twinPage
  obtain ⟨_, _, _, _, _, structures, _⟩ := whole _ catalog_twinPage
  have starts : plainLayout.starts twinBody = [firstTwin, secondTwin] := by
    rw [Layout.starts, sections_twinPage]
    rfl
  have level : ∀ p ∈ plainLayout.starts twinBody, ∀ q ∈ plainLayout.starts twinBody,
      p.Precedes q → p.path.length ≤ q.path.length := by
    rw [starts]
    intro p hp q hq _
    have deep : ∀ p ∈ [firstTwin, secondTwin], p.path.length = 3 := by decide
    rw [deep p hp, deep q hq]
  have shallow : plainLayout.Shallow twinBody := by decide +kernel
  exact ⟨shallow, ((sections plainLayout twinBody).2 shallow).mpr level, catalog_twinPage,
    structures⟩

/-- A page with a heading in a block and one after that block. -/
def blockPage : Node := pageWith [block "div" [markedHeading "A"], markedHeading "B"]

private def blockBody : Position blockPage := ⟨[0, 1], _, rfl⟩

private def outside : Position blockPage := ⟨[0, 1, 1], _, rfl⟩

private def inside : Position blockPage := ⟨[0, 1, 0, 0], _, rfl⟩

/-- The section in the block comes after the one that follows the block. -/
theorem starts_blockPage :
    plainLayout.Shallow blockBody ∧
    (plainLayout.starts blockBody).map Position.path = [[0, 1, 1], [0, 1, 0, 0]] ∧
    ¬(plainLayout.starts blockBody).Pairwise Position.Precedes := by
  have starts : plainLayout.starts blockBody = [outside, inside] := by
    have headings : plainLayout.headings blockBody = [outside, inside] := by decide +kernel
    have titled : Text.trimmed outside.node.innerText = "B" := by cbv
    have titled' : Text.trimmed inside.node.innerText = "A" := by cbv
    rw [Layout.starts_eq, headings, List.filter_cons, List.filter_cons, titled, titled']
    rfl
  rw [starts]
  refine ⟨by decide +kernel, rfl, ?_⟩
  unfold Position.Precedes
  decide

end

end ApiReference.Page
