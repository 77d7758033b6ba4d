import ApiReference.Proofs.Page.Links

/-!
Type cells in which some of the words are links. The links of such a cell are its linked words, so
that it is read as its text is, unless there are several links and words beside them: then only the
links are alternatives and the other words are lost (`cellType_of_cellText`).
-/

namespace ApiReference.Page

open Html WireType

variable {root : Node}

/-! ## Cells as they are shown -/

/-- What the text of a cell is made of. -/
inductive Part where
  | letter (c : Char)
  | link (text : List Char)
  deriving DecidableEq

namespace Part

/-- The letters of a part. -/
def text : Part → List Char
  | letter c => [c]
  | link text => text

/-- The text of a link. -/
def link? : Part → Option (List Char)
  | letter _ => none
  | link text => some text

end Part

/-- Whether nodes show these parts: text nodes their letters, however the text is divided among
them, and links with one text node in them a link. -/
inductive Shows : List Node → List Part → Prop where
  | nil : Shows [] []
  | text {s : String} {rest : List Node} {parts : List Part} : Shows rest parts →
    Shows (.mk (.text s) [] :: rest) (s.toList.map .letter ++ parts)
  | link {e : Element} {s : String} {rest : List Node} {parts : List Part} :
    Text.equalIgnoringCase e.name "a" = true → Shows rest parts →
    Shows (.mk (.element e) [.mk (.text s) []] :: rest) (.link s.toList :: parts)

/-- A word of a cell. -/
structure CellWord where
  word : TypeWord
  /-- Whether the word is a link. -/
  linked : Bool

/-- How a word of a cell is shown. -/
def CellWord.parts (w : CellWord) : List Part :=
  if w.linked then [.link w.word.text] else w.word.text.map .letter

/-- A type text some of whose words are links. -/
structure CellText where
  arrays : List ArrayOf
  first : CellWord
  others : List CellWord

namespace CellText

/-- The words of a cell, in order. -/
def words (t : CellText) : List CellWord := t.first :: t.others

/-- The text of a cell without its links. -/
def plain (t : CellText) : TypeText := ⟨t.arrays, t.first.word, t.others.map CellWord.word⟩

theorem plain_words (t : CellText) : t.plain.words = t.words.map CellWord.word := rfl

/-- The words of a cell that are links, in order. -/
def linked (t : CellText) : List TypeWord := (t.words.filter CellWord.linked).map CellWord.word

/-- How the text of a cell is shown. -/
def parts (t : CellText) : List Part :=
  (t.arrays.flatMap ArrayOf.text).map .letter ++
    (" or ".toList.map Part.letter).intercalate (t.words.map CellWord.parts)

end CellText

/-! ## Text and links -/

section

variable {α β : Type}

private theorem flatMap_intercalate (f : α → List β) (sep : List α) (parts : List (List α)) :
    (sep.intercalate parts).flatMap f =
      (sep.flatMap f).intercalate (parts.map fun part => part.flatMap f) := by
  induction parts with
  | nil => rfl
  | cons part rest ih =>
    cases rest with
    | nil => simp
    | cons next rest =>
      rw [List.intercalate_cons_cons, List.flatMap_append, List.flatMap_append, ih, List.map_cons,
        List.map_cons, List.map_cons, List.intercalate_cons_cons]

private theorem filterMap_intercalate {f : α → Option β} {sep : List α}
    (none : sep.filterMap f = []) (parts : List (List α)) :
    (sep.intercalate parts).filterMap f = parts.flatMap fun part => part.filterMap f := by
  induction parts with
  | nil => rfl
  | cons part rest ih =>
    cases rest with
    | nil => simp
    | cons next rest =>
      rw [List.intercalate_cons_cons, List.filterMap_append, List.filterMap_append, ih, none,
        List.append_nil]
      rfl

end

private theorem flatMap_letters (cs : List Char) : (cs.map Part.letter).flatMap Part.text = cs := by
  induction cs with
  | nil => rfl
  | cons c cs ih => rw [List.map_cons, List.flatMap_cons, ih]; rfl

private theorem filterMap_letters (cs : List Char) :
    (cs.map Part.letter).filterMap Part.link? = [] := by
  induction cs with
  | nil => rfl
  | cons c cs ih => rw [List.map_cons, List.filterMap_cons, ih]; rfl

namespace CellText

theorem text_parts (t : CellText) : t.parts.flatMap Part.text = t.plain.text := by
  have word (w : CellWord) : w.parts.flatMap Part.text = w.word.text := by
    unfold CellWord.parts
    split
    · exact List.flatMap_singleton _ _
    · exact flatMap_letters _
  have words : (t.words.map CellWord.parts).map (fun part => part.flatMap Part.text) =
      t.plain.words.map TypeWord.text := by
    rw [List.map_map, plain_words, List.map_map]
    exact List.map_congr_left fun w _ => word w
  rw [parts, List.flatMap_append, flatMap_letters, flatMap_intercalate, flatMap_letters, words]
  rfl

theorem links_parts (t : CellText) :
    t.parts.filterMap Part.link? = t.linked.map TypeWord.text := by
  have word (w : CellWord) :
      w.parts.filterMap Part.link? = if w.linked then [w.word.text] else [] := by
    unfold CellWord.parts
    split
    · rfl
    · exact filterMap_letters _
  rw [parts, List.filterMap_append, filterMap_letters, List.nil_append,
    filterMap_intercalate (filterMap_letters _), List.flatMap_map, linked, List.map_map]
  induction t.words with
  | nil => rfl
  | cons w ws ih =>
    rw [List.flatMap_cons, ih, word, List.filter_cons]
    cases w.linked <;> rfl

end CellText

/-! ## What nodes show -/

namespace Shows

variable {nodes : List Node} {parts : List Part}

theorem textOf (h : Shows nodes parts) :
    Node.textOf nodes = String.ofList (parts.flatMap Part.text) := by
  induction h with
  | nil =>
    rw [Node.textOf]
    rfl
  | text _ ih =>
    rw [Node.textOf, ih, List.flatMap_append, flatMap_letters, String.ofList_append,
      String.ofList_toList]
  | link _ _ ih =>
    rw [Node.textOf, ih, Node.textOf, Node.textOf, String.append_empty, List.flatMap_cons,
      String.ofList_append]
    show _ = String.ofList (String.toList _) ++ _
    rw [String.ofList_toList]

/-- The links that nodes show are those that a search for links finds among them. -/
theorem texts_of_links (h : Shows nodes parts) :
    (nodes.filter (Selector.ofTag "a").matchesNode).map Node.innerText =
      (parts.filterMap Part.link?).map String.ofList := by
  induction h with
  | nil => rfl
  | text _ ih =>
    rw [List.filter_cons_of_neg (by simp [Selector.matchesNode, Node.label]), ih,
      List.filterMap_append, filterMap_letters, List.nil_append]
  | @link e s _ _ anchor _ ih =>
    rw [List.filter_cons_of_pos (matchesNode_ofTag.mpr ⟨e, rfl, anchor⟩), List.map_cons, ih]
    show _ = String.ofList s.toList :: _
    rw [Node.innerText, Node.children, Node.textOf, Node.textOf, String.append_empty,
      String.ofList_toList]

/-- Below what nodes show there is only text. -/
theorem children_text (h : Shows nodes parts) :
    ∀ n ∈ nodes, ∀ m ∈ n.children, ∃ s, m.label = .text s := by
  induction h with
  | nil => simp
  | text _ ih =>
    intro n hn m hm
    rcases List.mem_cons.mp hn with rfl | later
    · cases hm
    · exact ih n later m hm
  | link _ _ ih =>
    intro n hn m hm
    rcases List.mem_cons.mp hn with rfl | later
    · rw [List.mem_singleton.mp hm]
      exact ⟨_, rfl⟩
    · exact ih n later m hm

end Shows

/-- Of a cell with nothing but text below its children the children alone are searched. -/
theorem matching_of_children_text {cell : Position root}
    (flat : ∀ n ∈ cell.node.children, ∀ m ∈ n.children, ∃ s, m.label = .text s) (s : Selector) :
    cell.matching s = cell.children.filter fun q => s.matchesNode q.node := by
  have none : ((cell.children.filter Position.isSearched).flatMap Position.children).filter
      Position.isSearched = [] := by
    refine List.filter_eq_nil_iff.mpr fun r hr => ?_
    obtain ⟨q, hq, child⟩ := List.mem_flatMap.mp hr
    have here := List.mem_map_of_mem (f := Position.node) (List.mem_filter.mp hq).1
    have below := List.mem_map_of_mem (f := Position.node) child
    rw [Position.map_node_children] at here below
    obtain ⟨s, label⟩ := flat _ here _ below
    simp [Position.isSearched, label]
  -- So the level below the children of the cell ends the search.
  have deeper (depth : Nat) : Position.levels depth
      ((cell.children.filter Position.isSearched).flatMap Position.children) = [] := by
    cases depth with
    | zero => rfl
    | succ depth =>
      rw [Position.levels_succ, none, List.flatMap_nil, Position.levels_nil, List.append_nil]
  rw [Position.matching, Position.searchOrder_eq, deeper, List.append_nil, List.filter_filter]
  refine List.filter_congr fun q _ => ?_
  rw [Bool.and_eq_left_iff_imp]
  exact Position.isSearched_of_matchesNode

/-- The links of a cell are the texts of its linked words. -/
theorem linkTexts_of_shows {cell : Position root} {t : CellText}
    (shown : Shows cell.node.children t.parts) :
    linkTexts cell = t.linked.map fun w => String.ofList w.text := by
  have nodes : (cell.matching (.ofTag "a")).map Position.node =
      cell.node.children.filter (Selector.ofTag "a").matchesNode := by
    rw [matching_of_children_text shown.children_text, ← cell.map_node_children, List.filter_map]
    rfl
  have trimmed (w : TypeWord) : Text.trimmed (String.ofList w.text) = String.ofList w.text := by
    rw [Text.trimmed, String.toList_ofList, Text.trim_of_tight w.tight]
  have texts : (cell.matching (.ofTag "a")).map (fun q => Text.trimmed q.node.innerText) =
      t.linked.map fun w => String.ofList w.text := by
    calc (cell.matching (.ofTag "a")).map (fun q => Text.trimmed q.node.innerText)
        = (((cell.matching (.ofTag "a")).map Position.node).map Node.innerText).map
            Text.trimmed := by
          rw [List.map_map, List.map_map]
          rfl
      _ = ((t.linked.map TypeWord.text).map String.ofList).map Text.trimmed := by
          rw [nodes, shown.texts_of_links, t.links_parts]
      _ = t.linked.map fun w => String.ofList w.text := by
          rw [List.map_map, List.map_map]
          exact List.map_congr_left fun w _ => trimmed w
  rw [linkTexts, Position.selectAll_single, texts, List.filter_eq_self]
  intro text ht
  obtain ⟨w, _, rfl⟩ := List.mem_map.mp ht
  have visible : String.ofList w.text ≠ "" := by simpa using w.tight.ne_nil
  simpa using visible

theorem innerText_of_shows {cell : Position root} {t : CellText}
    (shown : Shows cell.node.children t.parts) :
    cell.node.innerText = String.ofList t.plain.text := by
  rw [Node.innerText, shown.textOf, t.text_parts]

/-! ## What such cells mean -/

theorem arrays_inj {depth : Nat} {a b : WireType} (h : arrays depth a = arrays depth b) :
    a = b := by
  induction depth with
  | zero => exact h
  | succ depth ih =>
    rw [arrays, arrays] at h
    injection h with same
    exact ih same

/-- A single link does not change what a text says, if it is all that the text consists of where
there are no alternatives. -/
theorem ofLinkedText_eq_ofPageText {field text : String} {links : List String}
    (few : links.length < 2)
    (whole : ¬Text.occursIn unionWord (stripArrays (Text.trim text.toList)).2 = true →
      ∀ link ∈ links, link.toList = (stripArrays (Text.trim text.toList)).2) :
    ofLinkedText field text links = ofPageText field text := by
  unfold ofLinkedText ofPageText
  dsimp only
  match links, few with
  | [], _ => rfl
  | [link], _ =>
    dsimp only
    split
    · rfl
    · rename_i single
      rw [whole single link (List.mem_singleton_self link)]

namespace CellText

/-- What a cell means in the row of a field: what its links mean, if there are several, and else
what its text means. -/
def type (field : String) (t : CellText) : WireType :=
  if 2 ≤ t.linked.length then
    WireType.arrays t.arrays.length (.union (t.linked.map (TypeWord.type field)))
  else t.plain.type field

theorem linked_of_single {t : CellText} (single : t.plain.others = []) :
    ∀ w ∈ t.linked, w = t.first.word := by
  have none : t.others = [] := List.map_eq_nil_iff.mp single
  intro w hw
  rw [linked, words, none] at hw
  obtain ⟨v, hv, rfl⟩ := List.mem_map.mp hw
  rw [List.mem_singleton.mp (List.mem_filter.mp hv).1]

theorem length_linked_le (t : CellText) : t.linked.length ≤ t.words.length := by
  rw [linked, List.length_map]
  exact List.length_filter_le _ _

/-- Several links are the whole union just if every word is a link. -/
theorem type_eq_plain_iff {field : String} {t : CellText} :
    t.type field = t.plain.type field ↔
      t.linked.length < 2 ∨ ∀ w ∈ t.words, w.linked = true := by
  unfold type
  split
  · rename_i several
    -- There is more than one word, as there is more than one link.
    have union : t.plain.type field =
        WireType.arrays t.arrays.length (.union (t.plain.words.map (TypeWord.type field))) := by
      rw [TypeText.type, TypeText.element]
      split
      · rename_i single
        have one := t.length_linked_le
        rw [words, List.length_cons, List.map_eq_nil_iff.mp single, List.length_nil] at one
        omega
      · rfl
    rw [union]
    constructor
    · intro same
      have count := congrArg List.length (WireType.union.inj (arrays_inj same))
      rw [List.length_map, List.length_map, linked, List.length_map, plain_words,
        List.length_map] at count
      exact .inr (List.length_filter_eq_length_iff.mp count)
    · rintro (few | all)
      · omega
      · rw [linked, List.filter_eq_self.mpr all, plain_words]
  · rename_i few
    exact iff_of_true rfl (.inl (Nat.lt_of_not_le few))

end CellText

theorem ofPageText_of_shows {cell : Position root} {t : CellText}
    (shown : Shows cell.node.children t.parts) (field : String) :
    ofPageText field cell.node.innerText = .ok (t.plain.type field) := by
  rw [innerText_of_shows shown, ofPageText_eq t.plain.stripArrays_text, read_alternatives]
  rfl

theorem cellType_of_shows {cell : Position root} {t : CellText}
    (shown : Shows cell.node.children t.parts) (field : String) :
    cellType field cell = .ok (t.type field) := by
  rw [CellText.type]
  split
  · rename_i several
    have count : 2 ≤ (linkTexts cell).length := by
      rwa [linkTexts_of_shows shown, List.length_map]
    have letters : (linkTexts cell).map String.toList = t.linked.map TypeWord.text := by
      simp [linkTexts_of_shows shown]
    rw [cellType, ofLinkedText_of_two_le count, letters, unionOf_text, innerText_of_shows shown,
      t.plain.stripArrays_text]
    rfl
  · rename_i few
    rw [← ofPageText_of_shows shown, cellType, linkTexts_of_shows shown]
    refine ofLinkedText_eq_ofPageText (by simpa using few) fun single link hl => ?_
    rw [innerText_of_shows shown, t.plain.stripArrays_text] at single ⊢
    obtain ⟨w, hw, rfl⟩ := List.mem_map.mp hl
    rw [t.plain.occursIn_alternatives, not_not] at single
    rw [CellText.linked_of_single single w hw, t.plain.alternatives_eq single,
      String.toList_ofList]
    rfl

/-- A cell in which some words are links has the type that its text tells, if there are less than
two links, and else its alternatives are the links alone. So it has another type than its text tells
just if there are several links and a word that is none: that word is lost. -/
theorem cellType_of_cellText {cell : Position root} {t : CellText}
    (shown : Shows cell.node.children t.parts) (field : String) :
    cellType field cell = .ok (t.type field) ∧
    (cellType field cell = ofPageText field cell.node.innerText ↔
      t.linked.length < 2 ∨ ∀ w ∈ t.words, w.linked = true) := by
  refine ⟨cellType_of_shows shown field, ?_⟩
  rw [cellType_of_shows shown, ofPageText_of_shows shown, Except.ok.injEq,
    CellText.type_eq_plain_iff]

/-! ### Two cells -/

section

private def integerWord : TypeWord := .scalar .integer "Integer" rfl

private def stringWord : TypeWord := .scalar .string "String" rfl

/-- A cell with one of two words linked. -/
def oneLinkCell : Node :=
  block "td" [words "Array of ", block "a" [words "Integer"], words " or String"]

/-- What that cell says. -/
def oneLink : CellText :=
  ⟨[⟨"Array of ".toList, [], rfl, by simp⟩], ⟨integerWord, true⟩, [⟨stringWord, false⟩]⟩

private theorem shows_oneLinkCell : Shows (Position.top oneLinkCell).node.children oneLink.parts :=
  .text (.link (by decide) (.text .nil))

theorem cellType_of_linkedInteger :
    Shows (Position.top oneLinkCell).node.children oneLink.parts ∧
    cellType "chat_id" (Position.top oneLinkCell) =
      .ok (.array (.union [.scalar .int64, .scalar .string])) ∧
    cellType "chat_id" (Position.top oneLinkCell) =
      ofPageText "chat_id" (Position.top oneLinkCell).node.innerText := by
  obtain ⟨read, sameAsText⟩ := cellType_of_cellText shows_oneLinkCell "chat_id"
  refine ⟨shows_oneLinkCell, ?_, sameAsText.mpr (.inl (by decide))⟩
  rw [read]
  rfl

private theorem alphanumeric_a : Text.isAlphanumeric 'A' = true := rfl

private theorem alphanumeric_b : Text.isAlphanumeric 'B' = true := rfl

private def nameA : TypeWord :=
  .name "A" (by decide) (by simp [alphanumeric_a]) (fun word => by cases word <;> decide)
    (by decide)

private def nameB : TypeWord :=
  .name "B" (by decide) (by simp [alphanumeric_b]) (fun word => by cases word <;> decide)
    (by decide)

/-- A cell with two of three words linked. -/
def twoLinkCell : Node :=
  block "td" [block "a" [words "A"], words " or ", block "a" [words "B"], words " or String"]

private def twoLinks : CellText := ⟨[], ⟨nameA, true⟩, [⟨nameB, true⟩, ⟨stringWord, false⟩]⟩

private theorem shows_twoLinkCell : Shows (Position.top twoLinkCell).node.children twoLinks.parts :=
  .link (by decide) (.text (.link (by decide) (.text .nil)))

/-- The word of that cell that is no link is lost. -/
theorem cellType_twoLinkCell :
    ∃ t : CellText, Shows (Position.top twoLinkCell).node.children t.parts ∧
      ofPageText "x" (Position.top twoLinkCell).node.innerText =
        .ok (.union [.named "A", .named "B", .scalar .string]) ∧
      cellType "x" (Position.top twoLinkCell) = .ok (.union [.named "A", .named "B"]) := by
  refine ⟨twoLinks, shows_twoLinkCell, ?_, ?_⟩
  · rw [ofPageText_of_shows shows_twoLinkCell]
    rfl
  · rw [cellType_of_shows shows_twoLinkCell]
    rfl

end

end ApiReference.Page
