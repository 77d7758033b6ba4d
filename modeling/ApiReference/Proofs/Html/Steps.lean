import ApiReference.Html.Formatting
import ApiReference.Proofs.Html.Draft
import Mathlib

/-!
The steps of reading markup keep its state sound: a line break is never open, never goes on as
formatting and is never a place for new nodes, so it never comes to hold anything.
-/

namespace ApiReference.Html

open Std.Do

set_option mvcgen.warning false

/-- Whether the element of an entry may hold others. -/
def FormattingEntry.MayHold : FormattingEntry → Prop
  | .marker => True
  | .element _ tag => tag.name ≠ "br"

/-- A state in which only nodes that may hold others do or are meant to. Those that are `kept` are
nodes that a step under way goes on with. -/
structure Construction.Sound (kept : Nat → Prop) (c : Construction) : Prop where
  draft : c.draft.Sound kept
  openElements : ∀ id ∈ c.openElements, c.draft.Holds id
  formatting : ∀ entry ∈ c.formatting, entry.MayHold
  head : ∀ id, c.head = some id → c.draft.Holds id

/-- What is kept once a new node is too, where that may hold others. -/
def withNew (kept : Nat → Prop) (id : Nat) (mayHold : Prop) (i : Nat) : Prop :=
  i = id ∧ mayHold ∨ kept i

/-- Whether a step keeps a state sound, and with it the nodes that a longer step goes on with. -/
abbrev Build.Keeps {α : Type} (kept : Nat → Prop) (m : Build α) : Prop :=
  ⦃fun c => ⌜c.Sound kept⌝⦄ m ⦃⇓ _ c => ⌜c.Sound kept⌝⦄

variable {kept : Nat → Prop}

namespace Construction.Sound

variable {c : Construction}

theorem start : Construction.start.Sound fun _ => False where
  draft := Draft.sound_empty
  openElements _ h := nomatch h
  formatting _ h := nomatch h
  head _ h := nomatch h

theorem weaken {other : Nat → Prop} (h : c.Sound kept) (held : ∀ id, other id → c.draft.Holds id) :
    c.Sound other :=
  { h with draft := h.draft.weaken held }

theorem less {other : Nat → Prop} (h : c.Sound kept) (fewer : ∀ id, other id → kept id) :
    c.Sound other :=
  h.weaken fun id hid => h.draft.kept id (fewer id hid)

theorem holds {id : Nat} (h : c.Sound kept) (hid : kept id) : c.draft.Holds id :=
  h.draft.kept id hid

theorem holds_new {id : Nat} {mayHold : Prop} (h : c.Sound (withNew kept id mayHold))
    (may : mayHold) : c.draft.Holds id :=
  h.holds (.inl ⟨rfl, may⟩)

theorem old {id : Nat} {mayHold : Prop} (h : c.Sound (withNew kept id mayHold)) : c.Sound kept :=
  h.less fun _ => .inr

theorem holds_current (h : c.Sound kept) : c.draft.Holds (c.current?.getD 0) := by
  unfold current?
  cases found : c.openElements with
  | nil => exact h.draft.root
  | cons id _ => exact h.openElements id (by simp [found])

theorem holds_outermost (h : c.Sound kept) : c.draft.Holds (c.openElements.getLast?.getD 0) := by
  cases found : c.openElements.getLast? with
  | none => exact h.draft.root
  | some id => exact h.openElements id (List.mem_of_getLast? found)

/-- A change to the draft that keeps all that may hold others keeps a state sound. -/
theorem edit {d : Draft} (h : c.Sound kept)
    (sound : c.draft.Sound c.draft.Holds → d.Sound c.draft.Holds) :
    { c with draft := d }.Sound kept := by
  have new := sound (h.draft.weaken fun _ holds => holds)
  exact {
    draft := new.weaken fun id hid => new.kept id (h.draft.kept id hid)
    openElements := fun id hid => new.kept id (h.openElements id hid)
    formatting := h.formatting
    head := fun id hid => new.kept id (h.head id hid) }

theorem openOnly (h : c.Sound kept) {openElements : List Nat}
    (held : ∀ id ∈ openElements, c.draft.Holds id) : { c with openElements }.Sound kept :=
  { h with openElements := held }

theorem openFewer (h : c.Sound kept) {openElements : List Nat}
    (fewer : openElements ⊆ c.openElements) : { c with openElements }.Sound kept :=
  h.openOnly fun id hid => h.openElements id (fewer hid)

theorem formattingOnly (h : c.Sound kept) {formatting : List FormattingEntry}
    (may : ∀ entry ∈ formatting, entry.MayHold) : { c with formatting }.Sound kept :=
  { h with formatting := may }

theorem formattingFewer (h : c.Sound kept) {formatting : List FormattingEntry}
    (fewer : formatting ⊆ c.formatting) : { c with formatting }.Sound kept :=
  h.formattingOnly fun entry he => h.formatting entry (fewer he)

end Construction.Sound

/-- What comes some way after the first that passes a test is still from the list. -/
theorem drop_dropWhile_subset {α : Type} (p : α → Bool) (n : Nat) (l : List α) :
    (l.dropWhile p).drop n ⊆ l :=
  fun _ h => (List.dropWhile_sublist p).mem (List.mem_of_mem_drop h)

namespace Build

section

variable (names : List String) (id : Nat) (tag : Tag)

@[spec]
theorem keeps_setMode (mode : InsertionMode) : Keeps kept (setMode mode) := by
  mvcgen [setMode]
  rename_i h _
  exact { h with }

@[spec]
theorem keeps_framesetNotOk : Keeps kept framesetNotOk := by
  mvcgen [framesetNotOk]
  rename_i h _
  exact { h with }

@[spec]
theorem keeps_inScope (ends : Element → Bool) : Keeps kept (inScope ends names) := by
  mvcgen [inScope]

@[spec]
theorem keeps_currentMode : Keeps kept currentMode := by
  mvcgen [currentMode]

@[spec]
theorem keeps_forM {α : Type} {f : α → Build Unit} (step : ∀ a, Keeps kept (f a)) (l : List α) :
    Keeps kept (l.forM f) := by
  induction l with
  | nil => mvcgen [List.forM]
  | cons a l ih => mvcgen [List.forM, step, ih]

/-! ### What is open -/

@[spec]
theorem keeps_push :
    ⦃fun c => ⌜c.Sound kept ∧ c.draft.Holds id⌝⦄ push id ⦃⇓ _ c => ⌜c.Sound kept⌝⦄ := by
  mvcgen [push]
  rename_i h _
  exact h.1.openOnly fun i hi => (List.mem_cons.mp hi).elim (· ▸ h.2) (h.1.openElements i)

@[spec]
theorem keeps_pop : Keeps kept pop := by
  mvcgen [pop]
  rename_i h _
  exact h.openFewer (List.drop_subset _ _)

@[spec]
theorem keeps_popUntil (wanted : Construction → Nat → Bool) : Keeps kept (popUntil wanted) := by
  mvcgen [popUntil]
  rename_i h _
  exact h.openFewer (drop_dropWhile_subset _ _ _)

@[spec]
theorem keeps_popUntilNamed : Keeps kept (popUntilNamed names) := by
  mvcgen [popUntilNamed]

@[spec]
theorem keeps_popToContext : Keeps kept (popToContext names) := by
  mvcgen [popToContext]
  rename_i h _
  exact h.openFewer (List.dropWhile_sublist _).subset

@[spec]
theorem keeps_closeImplied (but : Option String) : Keeps kept (closeImplied names but) := by
  mvcgen [closeImplied]
  rename_i h _
  exact h.openFewer (List.dropWhile_sublist _).subset

@[spec]
theorem keeps_close : Keeps kept (close id) := by
  mvcgen [close]
  rename_i h _
  exact h.openFewer List.erase_subset

@[spec]
theorem keeps_closeParagraph : Keeps kept closeParagraph := by
  mvcgen [closeParagraph]

@[spec]
theorem keeps_closeParagraphInScope : Keeps kept closeParagraphInScope := by
  mvcgen [closeParagraphInScope]

/-! ### Formatting -/

@[spec]
theorem keeps_clearFormatting : Keeps kept clearFormatting := by
  mvcgen [clearFormatting]
  rename_i h _
  exact h.formattingFewer (drop_dropWhile_subset _ _ _)

@[spec]
theorem keeps_pushMarker : Keeps kept pushMarker := by
  mvcgen [pushMarker]
  rename_i h _
  exact h.formattingOnly (List.forall_mem_cons.mpr ⟨trivial, h.formatting⟩)

/-! ### New nodes -/

@[spec]
theorem keeps_create (kept : Nat → Prop) (l : Label) :
    ⦃fun c => ⌜c.Sound kept⌝⦄ create l ⦃⇓ id c => ⌜c.Sound (withNew kept id l.MayHold)⌝⦄ := by
  mvcgen [create]
  have h := ‹Construction.Sound kept _›
  refine (h.edit fun sound => sound.create l).weaken fun i hi => ?_
  obtain ⟨rfl, may⟩ | old := hi
  · exact Draft.holds_create may
  · exact (h.draft.create l).kept i old

theorem mayHold_element {space : Space} {name : String} {attributes : List Attribute} :
    (Label.element ⟨space, name, attributes⟩).MayHold ↔ name ≠ "br" := by
  simp [Label.MayHold]

@[spec]
theorem keeps_createElement (kept : Nat → Prop) (space : Space) (name : String)
    (attributes : List Attribute) :
    ⦃fun c => ⌜c.Sound kept⌝⦄ createElement space name attributes
    ⦃⇓ id c => ⌜c.Sound (withNew kept id (name ≠ "br"))⌝⦄ := by
  refine Triple.bind _ _ (keeps_create kept _) fun id => ?_
  have contents := keeps_create (withNew kept id (name ≠ "br")) .fragment
  simp only [mayHold_element]
  mvcgen [edit, -keeps_create, contents]
  rename_i isTemplate _ _ contents c h _
  have named : name ≠ "br" := by
    rintro rfl
    simp at isTemplate
  have held : c.draft.Holds id := h.old.holds_new named
  exact (h.edit fun sound => sound.append held contents).old

/-! ### Places -/

/-- Whether what is put in a place goes into a node that may hold others. -/
def Place.Held (holds : Nat → Prop) : Place → Prop
  | .lastIn parent => holds parent
  | .before _ fallback => holds fallback

theorem holds_contentsOf {c : Construction} {id : Nat} (h : c.draft.Holds id) :
    c.draft.Holds (contentsOf c id) := by
  unfold contentsOf
  split
  · cases found : (c.draft.children id).find? fun child => c.draft.label child == .fragment with
    | none => exact h
    | some child => exact Draft.holds_fragment (by simpa using Array.find?_some found)
  · exact h

theorem held_fosterPlace {c : Construction} (h : c.Sound kept) {outer : List Nat}
    (held : ∀ id ∈ outer, c.draft.Holds id) : (fosterPlace c outer).Held c.draft.Holds := by
  induction outer with
  | nil => exact h.holds_outermost
  | cons id outer ih =>
    unfold fosterPlace
    split
    · exact holds_contentsOf (held id List.mem_cons_self)
    · split
      · cases outer with
        | nil => exact h.draft.root
        | cons next _ => exact held next (List.mem_cons_of_mem _ List.mem_cons_self)
      · exact ih fun i hi => held i (List.mem_cons_of_mem _ hi)

theorem held_placeFor {c : Construction} (h : c.Sound kept) {target : Nat}
    (held : c.draft.Holds target) : (placeFor c target).Held c.draft.Holds := by
  unfold placeFor
  split
  · exact held_fosterPlace h h.openElements
  · exact holds_contentsOf held

theorem held_currentPlace {c : Construction} (h : c.Sound kept) :
    (currentPlace c).Held c.draft.Holds :=
  held_placeFor h h.holds_current

@[spec]
theorem keeps_insertAt (place : Place) :
    ⦃fun c => ⌜c.Sound kept ∧ place.Held c.draft.Holds⌝⦄ insertAt place id
    ⦃⇓ _ c => ⌜c.Sound kept⌝⦄ := by
  mvcgen [insertAt, edit]
  rename_i h _
  obtain ⟨h, held⟩ := h
  refine h.edit fun sound => ?_
  cases place with
  | lastIn parent => exact sound.append held id
  | before table fallback =>
    dsimp only
    split
    · exact sound.insertBefore table id
    · exact sound.append held id

@[spec]
theorem keeps_insertText (content : List Char) : Keeps kept (insertText content) := by
  mvcgen [insertText]
  rename_i c h _
  refine h.edit fun sound => ?_
  have held := held_currentPlace h
  split
  · rename_i place
    rw [place] at held
    exact sound.appendText held _
  · rename_i place
    rw [place] at held
    split
    · exact sound.insertTextBefore _ _
    · exact sound.appendText held _

@[spec]
theorem keeps_insertComment (text : String) : Keeps kept (insertComment text) := by
  mvcgen [insertComment]
  rename_i h
  exact ⟨h.old, held_currentPlace h⟩

@[spec]
theorem keeps_appendComment (parent : Nat) (text : String) :
    ⦃fun c => ⌜c.Sound kept ∧ c.draft.Holds parent⌝⦄ appendComment parent text
    ⦃⇓ _ c => ⌜c.Sound kept⌝⦄ := by
  have new := keeps_create (fun id => id = parent ∨ kept id) (.comment text)
  mvcgen [appendComment, edit, -keeps_create, new]
  case vc1 =>
    rename_i h
    exact h.1.weaken fun id hid => hid.elim (· ▸ h.2) h.1.holds
  case vc2 =>
    rename_i id c h _
    have held : c.draft.Holds parent := h.holds (.inr (.inl rfl))
    exact (h.edit fun sound => sound.append held id).less fun _ => .inr ∘ .inr

@[spec]
theorem keeps_insertClosed (kept : Nat → Prop) (space : Space) (name : String)
    (attributes : List Attribute) :
    ⦃fun c => ⌜c.Sound kept⌝⦄ insertClosed space name attributes
    ⦃⇓ id c => ⌜c.Sound (withNew kept id (name ≠ "br"))⌝⦄ := by
  mvcgen [insertClosed]
  rename_i h
  exact ⟨h, held_currentPlace h⟩

@[spec]
theorem keeps_insertElement (space : Space) {name : String} (attributes : List Attribute)
    (named : name ≠ "br") :
    ⦃fun c => ⌜c.Sound kept⌝⦄ insertElement space name attributes
    ⦃⇓ id c => ⌜c.Sound (withNew kept id True)⌝⦄ := by
  mvcgen [insertElement]
  rename_i h
  exact ⟨h.less fun _ => .imp_left fun new => ⟨new.1, named⟩, h.holds_new named⟩

@[spec]
theorem keeps_insertTag (named : tag.name ≠ "br") : Keeps kept (insertTag tag) := by
  mvcgen [insertTag]
  exact Construction.Sound.old ‹_›

@[spec]
theorem keeps_insertVoid : Keeps kept (insertVoid tag) := by
  mvcgen [insertVoid]
  exact Construction.Sound.old ‹_›

@[spec]
theorem keeps_insertImplied {name : String} (named : name ≠ "br") :
    Keeps kept (insertImplied name) := by
  mvcgen [insertImplied]
  · exact fun h => h.old
  · exact fun _ _ => named

@[spec]
theorem keeps_insertTextElement (mode : ScanMode) (named : tag.name ≠ "br") :
    Keeps kept (insertTextElement tag mode) := by
  mvcgen [insertTextElement]
  rename_i h _
  exact { h with }

@[spec]
theorem keeps_mergeAttributes : Keeps kept (mergeIntoRoot.mergeAttributes id tag) := by
  mvcgen [mergeIntoRoot.mergeAttributes, edit]
  rename_i h _
  refine h.edit fun sound => Draft.Sound.update (fun cell _ => ?_) sound
    (fun cell p hp => .inl ?_) fun cell => .inr fun none => ?_
  · split
    · rename_i label
      rw [label, mayHold_element, mayHold_element]
    · rfl
  · split at hp <;> exact hp
  · split <;> exact none

@[spec]
theorem keeps_mergeIntoRoot : Keeps kept (mergeIntoRoot tag) := by
  mvcgen [mergeIntoRoot]

@[spec]
theorem keeps_appendToDocument : Keeps kept (edit fun d => d.append 0 id) := by
  mvcgen [edit]
  rename_i h _
  exact h.edit fun sound => sound.append sound.root id

@[spec]
theorem keeps_detach : Keeps kept (edit fun d => d.detach id) := by
  mvcgen [edit]
  rename_i h _
  exact h.edit fun sound => sound.detach id

/-! ### Formatting that goes on -/

@[spec]
theorem keeps_reopen {entry : FormattingEntry} (may : entry.MayHold) :
    ⦃fun c => ⌜c.Sound kept⌝⦄ reopen entry ⦃⇓ new c => ⌜c.Sound kept ∧ new.MayHold⌝⦄ := by
  cases entry with
  | marker => mvcgen [reopen]
  | element id tag =>
    mvcgen [reopen]
    exact ⟨Construction.Sound.old ‹_›, may⟩

@[spec]
theorem keeps_reopenAll {entries : List FormattingEntry} (may : ∀ entry ∈ entries, entry.MayHold) :
    ⦃fun c => ⌜c.Sound kept⌝⦄ entries.mapM reopen
    ⦃⇓ new c => ⌜c.Sound kept ∧ ∀ entry ∈ new, entry.MayHold⌝⦄ := by
  induction entries with
  | nil =>
    rw [List.mapM_nil]
    mvcgen
  | cons entry entries ih =>
    rw [List.forall_mem_cons] at may
    have later := ih may.2
    rw [List.mapM_cons]
    mvcgen [later]
    · exact may.1
    · rename_i h
      exact h.1
    · rename_i new _ _ h
      exact ⟨h.1, List.forall_mem_cons.mpr ⟨new.2, h.2⟩⟩

@[spec]
theorem keeps_reconstructFormatting : Keeps kept reconstructFormatting := by
  mvcgen [reconstructFormatting]
  · rename_i h _ _ _
    intro e he
    exact h.formatting e ((List.takeWhile_sublist _).mem (List.mem_reverse.mp he))
  · rename_i old _ _ _ new c h _
    refine h.1.formattingOnly fun e he => (List.mem_append.mp he).elim ?_ ?_
    · exact fun hnew => h.2 e (List.mem_reverse.mp hnew)
    · exact fun hold => old.formatting e ((List.dropWhile_sublist _).mem hold)

@[spec]
theorem keeps_insertFormatting (named : tag.name ≠ "br") : Keeps kept (insertFormatting tag) := by
  mvcgen [insertFormatting]
  case vc3 h _ _ _ _ _ _ =>
    exact h.formattingFewer List.erase_subset
  all_goals
    have h := Construction.Sound.old ‹Construction.Sound (withNew kept _ True) _›
    exact h.formattingOnly (List.forall_mem_cons.mpr ⟨named, h.formatting⟩)

@[spec]
theorem keeps_closeAnyOther (name : String) : Keeps kept (closeAnyOther name) := by
  mvcgen [closeAnyOther]
  rename_i h _ _ _ _ _
  exact h.openFewer (drop_dropWhile_subset _ _ _)

@[spec]
theorem keeps_rebuildBetween (block count : Nat) (nodes : List Nat) (inner : Nat)
    (bookmark : Bookmark) : Keeps kept (rebuildBetween block count nodes inner bookmark) := by
  induction nodes generalizing count inner bookmark with
  | nil => mvcgen [rebuildBetween]
  | cons node nodes ih =>
    mvcgen [rebuildBetween, edit, ih]
    case vc1.cons.h_1.isTrue =>
      have h := ‹Construction.Sound kept _›
      exact (h.openFewer List.erase_subset).formattingFewer List.filter_sublist.subset
    case vc4.cons.h_1.isFalse.post.success =>
      rename_i old entry _ tag found _ copy c h t _ _
      have named : tag.name ≠ "br" := old.formatting _ (List.mem_of_find?_eq_some found)
      have held : c.draft.Holds copy := h.holds_new named
      have renamed : t.2.Sound (withNew kept copy (tag.name ≠ "br")) := by
        refine { draft := h.draft, head := h.head, openElements := fun i hi => ?_,
                 formatting := fun e he => ?_ }
        · obtain ⟨id, hid, rfl⟩ := List.mem_map.mp hi
          split
          · exact held
          · exact h.openElements id hid
        · obtain ⟨entry, hentry, rfl⟩ := List.mem_map.mp he
          split
          · exact named
          · exact h.formatting entry hentry
      exact (renamed.edit fun sound => sound.append held inner).old
    case vc5.cons.h_2 =>
      have h := ‹Construction.Sound kept _›
      exact h.openFewer List.erase_subset

/-! ### Elements that are split -/

@[spec]
theorem keeps_fillHalf (kept : Nat → Prop) (block half : Nat) :
    ⦃fun c => ⌜c.Sound kept ∧ c.draft.Holds block ∧ c.draft.Holds half⌝⦄ fillHalf block half
    ⦃⇓ _ c => ⌜c.Sound kept⌝⦄ := by
  mvcgen [fillHalf, edit]
  rename_i h _
  obtain ⟨h, hblock, hhalf⟩ := h
  exact h.edit fun sound => (sound.moveChildren hhalf block).append hblock half

@[spec]
theorem keeps_enterHalf (node block : Nat) {half : Nat} (named : tag.name ≠ "br")
    (bookmark : Bookmark) :
    ⦃fun c => ⌜c.Sound kept ∧ c.draft.Holds half⌝⦄ enterHalf node block half tag bookmark
    ⦃⇓ _ c => ⌜c.Sound kept⌝⦄ := by
  mvcgen [enterHalf]
  rename_i c h _
  obtain ⟨h, held⟩ := h
  refine { draft := h.draft, head := h.head, openElements := fun i hi => ?_, formatting := ?_ }
  · obtain ⟨id, hid, hi⟩ := List.mem_flatMap.mp hi
    have holds : c.draft.Holds id := h.openElements id (List.mem_of_mem_erase hid)
    split at hi
    · obtain rfl | rfl : i = half ∨ i = id := by simpa using hi
      · exact held
      · exact holds
    · obtain rfl := List.mem_singleton.mp hi
      exact holds
  · intro e he
    cases bookmark with
    | replacing =>
      obtain ⟨old, hold, rfl⟩ := List.mem_map.mp he
      split
      · exact named
      · exact h.formatting old hold
    | after copy =>
      obtain ⟨old, hold, he⟩ := List.mem_flatMap.mp (List.mem_of_mem_filter he)
      split at he
      · obtain rfl | rfl : e = .element half tag ∨ e = old := by simpa using he
        · exact named
        · exact h.formatting _ hold
      · obtain rfl := List.mem_singleton.mp he
        exact h.formatting _ hold

-- What comes next is put together from the steps so far, and only their specifications matter.
attribute [local irreducible] edit create createElement push pop close insertAt insertElement
  rebuildBetween fillHalf enterHalf splitBetween

/-- A step that keeps a state sound if some nodes are kept, keeps it sound if they may hold
others. -/
theorem keeps_of_held {α : Type} (kept : Nat → Prop) {m : Build α} (ids : List Nat)
    (h : Keeps (fun id => id ∈ ids ∨ kept id) m) :
    ⦃fun c => ⌜c.Sound kept ∧ ∀ id ∈ ids, c.draft.Holds id⌝⦄ m ⦃⇓ _ c => ⌜c.Sound kept⌝⦄ := by
  mvcgen [h]
  · have h := ‹Construction.Sound kept _ ∧ _›
    exact h.1.weaken fun id hid => hid.elim (h.2 id) h.1.holds
  · exact fun h => h.less fun _ => .inr

theorem keeps_splitBetween (node : Nat) (named : tag.name ≠ "br") (block : Nat)
    (between : List Nat) (ancestor : Nat) (hblock : kept block) (hancestor : kept ancestor) :
    Keeps kept (splitBetween node tag block between ancestor) := by
  have fill := fun half => keeps_fillHalf (withNew kept half True) block half
  mvcgen [splitBetween, -keeps_fillHalf, fill]
  · rename_i h
    exact ⟨h, held_placeFor h (h.holds hancestor)⟩
  · rename_i h
    exact ⟨h.less fun _ => .imp_left fun new => ⟨new.1, named⟩, h.holds (.inr hblock),
      h.holds_new named⟩
  · rename_i h
    exact ⟨h.old, h.holds_new trivial⟩
  · exact fun _ _ => named

@[spec]
theorem keeps_splitAround (node : Nat) (named : tag.name ≠ "br") (block : Nat) :
    ⦃fun c => ⌜c.Sound kept ∧ c.draft.Holds block⌝⦄ splitAround node tag block
    ⦃⇓ _ c => ⌜c.Sound kept⌝⦄ := by
  have split := fun between ancestor => keeps_of_held kept [block, ancestor]
    (keeps_splitBetween tag node named block between ancestor (.inl (by simp)) (.inl (by simp)))
  mvcgen [splitAround, split]
  rename_i c h outer _
  obtain ⟨h, held⟩ := h
  have around : c.draft.Holds (outer.head?.getD 0) := by
    cases found : outer.head? with
    | none => exact h.draft.root
    | some id =>
      exact h.openElements id (drop_dropWhile_subset _ _ _ (List.mem_of_head? found))
  exact ⟨h, List.forall_mem_cons.mpr ⟨held, List.forall_mem_singleton.mpr around⟩⟩

@[spec]
theorem keeps_closeFormattingRounds (name : String) (rounds : Nat) :
    Keeps kept (closeFormattingRounds name rounds) := by
  induction rounds with
  | zero => mvcgen [closeFormattingRounds]
  | succ rounds ih =>
    mvcgen [closeFormattingRounds, ih]
    case vc1.succ.h_1.isTrue =>
      have h := ‹Construction.Sound kept _›
      exact h.formattingFewer List.erase_subset
    case vc3.succ.h_1.isFalse.isFalse.h_1 =>
      have h := ‹Construction.Sound kept _›
      exact (h.openFewer (drop_dropWhile_subset _ _ _)).formattingFewer List.erase_subset
    case vc5.named =>
      have h := ‹Construction.Sound kept _›
      rename_i found _ _ _ _ _
      exact h.formatting _ ((List.takeWhile_sublist _).mem (List.mem_of_find?_eq_some found))
    case vc6.succ.h_1.isFalse.isFalse.h_2.pre =>
      have h := ‹Construction.Sound kept _›
      rename_i found
      exact ⟨h, h.openElements _ ((List.takeWhile_sublist _).mem
        (List.mem_reverse.mp (List.mem_of_find?_eq_some found)))⟩

@[spec]
theorem keeps_closeFormatting (name : String) : Keeps kept (closeFormatting name) := by
  mvcgen [closeFormatting]

@[spec]
theorem keeps_closeOpenLink : Keeps kept closeOpenLink := by
  mvcgen [closeOpenLink]
  have h := ‹Construction.Sound kept _›
  exact h.formattingFewer List.filter_sublist.subset

end

end Build

end ApiReference.Html
