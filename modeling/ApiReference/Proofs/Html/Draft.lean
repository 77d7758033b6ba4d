import ApiReference.Html.Draft

/-!
Which nodes of a draft hold others. A line break never does: no operation gives it a child unless
it is told to, so what has to be shown of the rules for markup is that they never name one as a
parent (`Draft.Sound`).
-/

namespace ApiReference.Html

/-- Whether a kind of node may hold others: a line break may not. -/
def Label.MayHold (l : Label) : Prop := ∀ e, l = .element e → e.name ≠ "br"

namespace Draft

/-- Whether a node is in the draft and may hold others. -/
def Holds (d : Draft) (id : Nat) : Prop := id < d.cells.size ∧ (d.label id).MayHold

/-- A draft in which only nodes that may hold others do, those that are `kept` among them. -/
structure Sound (kept : Nat → Prop) (d : Draft) : Prop where
  root : d.Holds 0
  kept : ∀ id, kept id → d.Holds id
  parent : ∀ id p, d.parent? id = some p → d.Holds p
  childless : ∀ id, ¬d.Holds id → d.children id = #[]

variable {d : Draft} {kept : Nat → Prop}

theorem Sound.weaken {other : Nat → Prop} (h : d.Sound kept) (held : ∀ id, other id → d.Holds id) :
    d.Sound other :=
  { h with kept := held }

/-- A fragment may hold others. -/
theorem holds_fragment {id : Nat} (h : d.label id = .fragment) : d.Holds id := by
  refine ⟨Nat.lt_of_not_le fun outside => ?_, fun e he => by simp [h] at he⟩
  simp [label, Array.getElem?_eq_none outside] at h

theorem sound_empty : empty.Sound fun _ => False where
  root := ⟨by simp [empty], fun e h => by simp [empty, label] at h⟩
  kept _ h := h.elim
  parent id p h := by
    simp only [parent?, empty, List.getElem?_toArray] at h
    rcases id with _ | id <;> simp at h
  childless id _ := by
    simp only [children, empty, List.getElem?_toArray]
    rcases id with _ | id <;> simp

/-! ## One node changed -/

section

variable {id : Nat} {f : Cell → Cell}
  (same : ∀ cell, d.cells[id]? = some cell → ((f cell).label.MayHold ↔ cell.label.MayHold))

include same

theorem holds_update (i : Nat) : (d.update id f).Holds i ↔ d.Holds i := by
  simp only [Holds, label, update, Array.size_modify, Array.getElem?_modify]
  by_cases h : id = i
  · subst h
    cases hc : d.cells[id]? with
    | none => simp
    | some cell => simpa using fun _ => same cell hc
  · simp [h]

/-- A change to one node keeps a draft sound if the node holds others as before, has a parent that
may hold it, and gets no children it may not have. -/
theorem Sound.update (h : d.Sound kept)
    (parent : ∀ cell p, (f cell).parent = some p → cell.parent = some p ∨ d.Holds p)
    (children : ∀ cell, d.Holds id ∨ (cell.children = #[] → (f cell).children = #[])) :
    (d.update id f).Sound kept where
  root := (holds_update same 0).mpr h.root
  kept i hi := (holds_update same i).mpr (h.kept i hi)
  parent i p hp := by
    rw [holds_update same]
    have old := h.parent i p
    simp only [parent?, Draft.update, Array.getElem?_modify] at hp old
    by_cases hi : id = i
    · subst hi
      cases hc : d.cells[id]? with
      | none => simp [hc] at hp
      | some cell =>
        simp only [hc, if_true, Option.map_some, Option.bind_some] at hp old
        exact (parent cell p hp).elim old fun holds => holds
    · simp only [hi, if_false] at hp
      exact old hp
  childless i hi := by
    rw [holds_update same] at hi
    have old := h.childless i hi
    simp only [Draft.children, Draft.update, Array.getElem?_modify] at old ⊢
    by_cases hid : id = i
    · subst hid
      cases hc : d.cells[id]? with
      | none => simp
      | some cell =>
        simp only [hc] at old
        simpa [hi, old] using children cell
    · simpa [hid] using old

end

/-- A node's place among the children of another, whichever it is, keeps a draft sound if that one
may hold others. -/
theorem Sound.adopt {parent id : Nat} (h : d.Sound kept) (holds : d.Holds parent)
    (place : Array Nat → Array Nat) :
    ((d.update parent fun cell => { cell with children := place cell.children }).update id
      fun cell => { cell with parent := some parent }).Sound kept := by
  have placed := Sound.update (f := fun cell => { cell with children := place cell.children })
    (fun _ _ => .rfl) h (fun _ _ hp => .inl hp) fun _ => .inl holds
  refine Sound.update (fun _ _ => .rfl) placed (fun _ p hp => .inr ?_) fun _ =>
    .inr fun none => none
  obtain rfl : parent = p := Option.some.inj hp
  exact (holds_update (f := fun cell => { cell with children := place cell.children })
    (fun _ _ => .rfl) parent).mpr holds

/-! ## The operations -/

theorem Sound.create (h : d.Sound kept) (l : Label) : (d.create l).2.Sound kept := by
  have old : ∀ i, d.Holds i → (d.create l).2.Holds i := fun i ⟨inside, holds⟩ => by
    have ne : i ≠ d.cells.size := Nat.ne_of_lt inside
    refine ⟨Nat.lt_of_lt_of_eq (Nat.lt_succ_of_lt inside) (by simp [Draft.create]), ?_⟩
    simpa [label, Draft.create, Array.getElem?_push, ne] using holds
  refine ⟨old 0 h.root, fun i hi => old i (h.kept i hi), fun i p hp => ?_, fun i hi => ?_⟩
  · simp only [parent?, Draft.create, Array.getElem?_push] at hp
    split at hp
    · simp at hp
    · exact old p (h.parent i p hp)
  · have none := h.childless i fun holds => hi (old i holds)
    simp only [children, Draft.create, Array.getElem?_push] at none ⊢
    by_cases new : i = d.cells.size
    · simp [new]
    · simpa [new] using none

/-- A new node may hold others if its kind may. -/
theorem holds_create {l : Label} (h : l.MayHold) : (d.create l).2.Holds (d.create l).1 := by
  simpa [Holds, label, Draft.create] using h

theorem Sound.detach (h : d.Sound kept) (id : Nat) : (d.detach id).Sound kept := by
  unfold Draft.detach
  split
  · exact h
  · rename_i p _
    have out : (d.update p fun cell =>
        { cell with children := cell.children.filter (· != id) }).Sound kept :=
      Sound.update (fun _ _ => .rfl) h (fun _ _ hp => .inl hp) fun _ => .inr fun none => by
        simp [none]
    exact Sound.update (fun _ _ => .rfl) out (fun _ _ hp => by cases hp) fun _ =>
      .inr fun none => none

theorem Sound.append {parent : Nat} (h : d.Sound kept) (holds : kept parent) (id : Nat) :
    (d.append parent id).Sound kept :=
  have out := h.detach id
  out.adopt (out.kept parent holds) fun children => children.push id

theorem Sound.insertBefore (h : d.Sound kept) (sibling id : Nat) :
    (d.insertBefore sibling id).Sound kept := by
  have out := h.detach id
  unfold Draft.insertBefore
  dsimp only
  split
  · exact out
  · rename_i p hp
    exact out.adopt (out.parent sibling p hp) fun children =>
      children.flatMap fun c => if c == sibling then #[id, c] else #[c]

theorem Sound.extendText? {d' : Draft} (h : d.Sound kept) {id : Nat} {content : String}
    (extended : d.extendText? id content = some d') : d'.Sound kept := by
  unfold Draft.extendText? at extended
  split at extended
  · rename_i t text
    cases extended
    refine Sound.update (fun cell found => ?_) h (fun _ _ hp => .inl hp) fun _ =>
      .inr fun none => none
    have : cell.label = .text t := by simpa [label, found] using text
    simp [Label.MayHold, this]
  · cases extended

theorem Sound.appendText {parent : Nat} (h : d.Sound kept) (holds : kept parent)
    (content : String) : (d.appendText parent content).Sound kept := by
  unfold Draft.appendText
  dsimp only
  split
  · rename_i d' joined
    obtain ⟨last, -, extended⟩ := Option.bind_eq_some_iff.mp joined
    exact h.extendText? extended
  · exact (h.create _).append holds _

theorem Sound.insertTextBefore (h : d.Sound kept) (sibling : Nat) (content : String) :
    (d.insertTextBefore sibling content).Sound kept := by
  unfold Draft.insertTextBefore
  dsimp only
  split
  · rename_i d' joined
    obtain ⟨last, -, extended⟩ := Option.bind_eq_some_iff.mp joined
    exact h.extendText? extended
  · exact (h.create _).insertBefore sibling _

theorem Sound.moveChildren {target : Nat} (h : d.Sound kept) (holds : kept target)
    (source : Nat) : (d.moveChildren source target).Sound kept := by
  unfold Draft.moveChildren
  rw [← Array.foldl_toList]
  generalize (d.children source).toList = moved
  induction moved generalizing d with
  | nil => exact h
  | cons id rest ih => exact ih (h.append holds id)

end Draft

end ApiReference.Html
