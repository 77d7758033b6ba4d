import ApiReference.Page.TypeCell
import ApiReference.Proofs.Html.Queue
import ApiReference.Proofs.Page.Readable
import ApiReference.Proofs.WireType.TypeText

/-!
The links of a type cell. Several links with text are the alternatives of the type, one for each
link, in the order in which a search finds them (`cellType_of_links`): that is the order of the
document just if no link stands higher than one before it in the document.
-/

namespace ApiReference

namespace WireType

/-- White space around a word does not matter. -/
theorem ofPageWord_trim (field : Option String) (cs : List Char) :
    ofPageWord field (Text.trim cs) = ofPageWord field cs := by
  unfold ofPageWord bareWord
  rw [Text.trim_trim]

theorem ofLinkedText_of_two_le {links : List String} (several : 2 ≤ links.length)
    (field text : String) :
    ofLinkedText field text links = (unionOf field (links.map String.toList)).map
      (arrays (stripArrays (Text.trim text.toList)).1) := by
  match links, several with
  | first :: second :: rest, _ =>
    show (unionOf field ((first :: second :: rest).map String.toList) >>= fun base =>
      .ok (arrays (stripArrays (Text.trim text.toList)).1 base)) = _
    cases unionOf field ((first :: second :: rest).map String.toList) <;> rfl

end WireType

namespace Page

open Html

variable {root : Node}

/-- Whether a node is a link with text. -/
structure IsLink (n : Node) : Prop where
  anchor : ∃ e, n.label = .element e ∧ Text.equalIgnoringCase e.name "a" = true
  visible : ∃ c ∈ n.innerText.toList, Text.isBlank c = false

/-- The links in a cell that have text, in the order of a search. -/
def links (cell : Position root) : List (Position root) :=
  (cell.matching (.ofTag "a")).filter fun q => !(Text.trimmed q.node.innerText).isEmpty

theorem linkTexts_eq (cell : Position root) :
    linkTexts cell = (links cell).map fun q => Text.trimmed q.node.innerText := by
  rw [linkTexts, links, Position.selectAll_single, List.filter_map, Function.comp_def]

theorem matchesNode_ofTag {tag : String} {n : Node} :
    (Selector.ofTag tag).matchesNode n = true ↔
      ∃ e, n.label = .element e ∧ Text.equalIgnoringCase e.name tag = true := by
  unfold Selector.matchesNode
  split
  · rename_i e label
    rw [label]
    simp [Selector.matchesElement, Selector.matchesClasses, Selector.ofTag]
  · rename_i other
    simp only [Bool.false_eq_true, false_iff]
    rintro ⟨e, label, _⟩
    exact other e label

theorem mem_links {cell q : Position root} : q ∈ links cell ↔ cell.Below q ∧ IsLink q.node := by
  have visible : (!(Text.trimmed q.node.innerText).isEmpty) = true ↔
      ∃ c ∈ q.node.innerText.toList, Text.isBlank c = false := by
    rw [← Text.trim_ne_nil_iff]
    simp [Text.trimmed]
  rw [links, List.mem_filter, Position.mem_matching, matchesNode_ofTag, visible, and_assoc]
  exact and_congr_right fun _ => ⟨fun h => ⟨h.1, h.2⟩, fun h => ⟨h.anchor, h.visible⟩⟩

theorem sorted_links (cell : Position root) : (links cell).Pairwise Position.Earlier :=
  (cell.sorted_searchOrder.filter _).filter _

/-- What links mean is told by their texts. -/
theorem map_ofPageWord_linkTexts (field : String) (cell : Position root) :
    ((linkTexts cell).map String.toList).map (WireType.ofPageWord (some field)) =
      (links cell).map fun q => WireType.ofPageWord (some field) q.node.innerText.toList := by
  rw [linkTexts_eq, List.map_map, List.map_map]
  refine List.map_congr_left fun q _ => ?_
  simp only [Function.comp_apply, Text.trimmed, String.toList_ofList, WireType.ofPageWord_trim]

/-- The links of a cell that have text, wherever they stand below it, are listed once each, in the
order of a search. That is their order in the document just if no link stands higher than one before
it in the document. If there are two or more, the cell has a type just if each of them has, and then
the alternatives are their types, in that order. -/
theorem cellType_of_links {cell : Position root} (several : 2 ≤ (links cell).length)
    (field : String) (t : WireType) :
    (∀ q, q ∈ links cell ↔ cell.Below q ∧ IsLink q.node) ∧
    (links cell).Pairwise Position.Earlier ∧
    ((links cell).Pairwise Position.Precedes ↔
      ∀ p ∈ links cell, ∀ q ∈ links cell, p.Precedes q → p.path.length ≤ q.path.length) ∧
    (cellType field cell = .ok t ↔
      ∃ members,
        t = WireType.arrays (WireType.stripArrays (Text.trim cell.node.innerText.toList)).1
          (.union members) ∧
        (links cell).map (fun q => WireType.ofPageWord (some field) q.node.innerText.toList) =
          members.map .ok) := by
  refine ⟨fun q => mem_links, sorted_links cell,
    Position.pairwise_precedes_iff (sorted_links cell), ?_⟩
  have count : 2 ≤ (linkTexts cell).length := by rwa [linkTexts_eq, List.length_map]
  rw [cellType, WireType.ofLinkedText_of_two_le count]
  constructor
  · intro h
    obtain ⟨base, read, rfl⟩ := of_map_ok h
    obtain ⟨members, rfl, meant⟩ := WireType.unionOf_ok_iff.mp read
    rw [map_ofPageWord_linkTexts] at meant
    exact ⟨members, rfl, meant⟩
  · rintro ⟨members, rfl, meant⟩
    rw [← map_ofPageWord_linkTexts] at meant
    rw [WireType.unionOf_ok_iff.mpr ⟨members, rfl, meant⟩]
    rfl

/-! ### Two cells -/

section

private theorem ofPageWord_a : WireType.ofPageWord (some "x") "A".toList = .ok (.named "A") := by
  cbv

private theorem ofPageWord_b : WireType.ofPageWord (some "x") "B".toList = .ok (.named "B") := by
  cbv

/-- A cell with two links, each in an element of its own. -/
def spreadCell : Node :=
  block "td" [words "Array of ", block "i" [block "a" [words "A"]], words " and ",
    block "b" [block "a" [words "B"]]]

private def inItalic : Position spreadCell := ⟨[1, 0], _, rfl⟩

private def inBold : Position spreadCell := ⟨[3, 0], _, rfl⟩

private theorem links_spreadCell : links (Position.top spreadCell) = [inItalic, inBold] := by
  have found : (Position.top spreadCell).matching (.ofTag "a") = [inItalic, inBold] := rfl
  have first : Text.trimmed inItalic.node.innerText = "A" := by cbv
  have second : Text.trimmed inBold.node.innerText = "B" := by cbv
  rw [links, found, List.filter_cons, List.filter_cons, first, second]
  rfl

theorem cellType_of_spreadLinks :
    2 ≤ (links (Position.top spreadCell)).length ∧
    (links (Position.top spreadCell)).Pairwise Position.Precedes ∧
    cellType "x" (Position.top spreadCell) = .ok (.array (.union [.named "A", .named "B"])) := by
  have several : 2 ≤ (links (Position.top spreadCell)).length := by
    rw [links_spreadCell]
    decide
  obtain ⟨_, _, inOrder, read⟩ :=
    cellType_of_links several "x" (.array (.union [.named "A", .named "B"]))
  rw [links_spreadCell] at several inOrder read ⊢
  have level : ∀ p ∈ [inItalic, inBold], p.path.length = 2 := by decide
  refine ⟨several, inOrder.mpr fun p hp q hq _ => ?_, read.mpr ⟨[.named "A", .named "B"], ?_, ?_⟩⟩
  · rw [level p hp, level q hq]
  · have text : Text.trim (Position.top spreadCell).node.innerText.toList
        = "Array of A and B".toList := by cbv
    have array : WireType.dropArrayOf? "Array of A and B".toList = some "A and B".toList := rfl
    have single : WireType.dropArrayOf? "A and B".toList = none := rfl
    rw [text, WireType.stripArrays_of_some array, WireType.stripArrays_of_none single]
    rfl
  · have first : inItalic.node.innerText = "A" := by cbv
    have second : inBold.node.innerText = "B" := by cbv
    rw [List.map_cons, List.map_singleton, first, second, ofPageWord_a, ofPageWord_b]
    rfl

/-- A cell with a link in an element before one that stands in the cell itself. -/
def looseCell : Node :=
  block "td" [block "b" [block "a" [words "A"]], words ", ", block "a" [words "B"]]

private def inElement : Position looseCell := ⟨[0, 0], _, rfl⟩

private def inCell : Position looseCell := ⟨[2], _, rfl⟩

private theorem links_looseCell : links (Position.top looseCell) = [inCell, inElement] := by
  have found : (Position.top looseCell).matching (.ofTag "a") = [inCell, inElement] := rfl
  have first : Text.trimmed inElement.node.innerText = "A" := by cbv
  have second : Text.trimmed inCell.node.innerText = "B" := by cbv
  rw [links, found, List.filter_cons, List.filter_cons, first, second]
  rfl

/-- The alternatives of that cell come in another order than its links. -/
theorem cellType_looseCell :
    ∃ first second : Position looseCell,
      (∀ q, (Position.top looseCell).Below q ∧ IsLink q.node ↔ q = first ∨ q = second) ∧
      first.Precedes second ∧ ¬first.Below second ∧ ¬second.Below first ∧
      WireType.ofPageWord (some "x") first.node.innerText.toList = .ok (.named "A") ∧
      WireType.ofPageWord (some "x") second.node.innerText.toList = .ok (.named "B") ∧
      cellType "x" (Position.top looseCell) = .ok (.union [.named "B", .named "A"]) := by
  have first : inElement.node.innerText = "A" := by cbv
  have second : inCell.node.innerText = "B" := by cbv
  refine ⟨inElement, inCell, fun q => ?_, ?_, fun below => ?_, fun below => ?_, ?_, ?_, ?_⟩
  · rw [← mem_links, links_looseCell, List.mem_cons, List.mem_singleton, or_comm]
  · unfold Position.Precedes
    decide
  · exact absurd below.length_lt (by decide)
  · have none : inCell.searchOrder = [] := rfl
    rw [← Position.mem_searchOrder, none] at below
    cases below
  · rw [first, ofPageWord_a]
  · rw [second, ofPageWord_b]
  · have text : Text.trim (Position.top looseCell).node.innerText.toList = "A, B".toList := by cbv
    have single : WireType.dropArrayOf? "A, B".toList = none := rfl
    have count : 2 ≤ (linkTexts (Position.top looseCell)).length := by
      rw [linkTexts_eq, links_looseCell]
      decide
    have meant : WireType.unionOf "x" ((linkTexts (Position.top looseCell)).map String.toList)
        = .ok (.union [.named "B", .named "A"]) := by
      rw [WireType.unionOf_ok_iff]
      refine ⟨_, rfl, ?_⟩
      rw [map_ofPageWord_linkTexts, links_looseCell, List.map_cons, List.map_singleton, first,
        second, ofPageWord_a, ofPageWord_b]
      rfl
    rw [cellType, WireType.ofLinkedText_of_two_le count, meant, text,
      WireType.stripArrays_of_none single]
    rfl

end

end Page

end ApiReference
