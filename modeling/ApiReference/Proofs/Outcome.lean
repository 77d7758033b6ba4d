/-!
Steps that may fail. Where a whole succeeds, so did each of the steps it is made of.
-/

namespace ApiReference

variable {α β ε φ : Type}

theorem of_bind_ok {x : Except ε α} {f : α → Except ε β} {b : β} (h : x >>= f = .ok b) :
    ∃ a, x = .ok a ∧ f a = .ok b := by
  cases x with
  | error fault => cases h
  | ok a => exact ⟨a, rfl, h⟩

theorem of_map_ok {x : Except ε α} {f : α → β} {b : β} (h : x.map f = .ok b) :
    ∃ a, x = .ok a ∧ b = f a := by
  cases x with
  | error fault => cases h
  | ok a =>
    cases h
    exact ⟨a, rfl, rfl⟩

theorem of_mapError_ok {x : Except ε α} {f : ε → φ} {a : α} (h : x.mapError f = .ok a) :
    x = .ok a := by
  cases x with
  | error fault => cases h
  | ok b =>
    cases h
    rfl

/-- Reading things one after the other gives as many as there are, each read off one of them. -/
theorem of_mapM_ok {f : α → Except ε β} :
    ∀ {as : List α} {bs : List β}, as.mapM f = .ok bs →
      bs.length = as.length ∧ ∀ b ∈ bs, ∃ a ∈ as, f a = .ok b
  | [], bs, h => by
    cases h
    simp
  | a :: as, bs, h => by
    rw [List.mapM_cons] at h
    obtain ⟨b, first, h⟩ := of_bind_ok h
    obtain ⟨rest, later, h⟩ := of_bind_ok h
    cases h
    obtain ⟨length, each⟩ := of_mapM_ok later
    refine ⟨by simp [length], fun c hc => ?_⟩
    rcases List.mem_cons.mp hc with rfl | among
    · exact ⟨a, List.mem_cons_self, first⟩
    · obtain ⟨d, hd, read⟩ := each c among
      exact ⟨d, List.mem_cons_of_mem _ hd, read⟩

/-- Reading things one after the other gives what each of them is read as, in their order. -/
theorem mapM_ok_iff {f : α → Except ε β} {as : List α} {bs : List β} :
    as.mapM f = .ok bs ↔ as.map f = bs.map .ok := by
  induction as generalizing bs with
  | nil => cases bs <;> simp [pure, Except.pure]
  | cons a as ih =>
    rw [List.mapM_cons, List.map_cons]
    constructor
    · intro h
      obtain ⟨b, first, h⟩ := of_bind_ok h
      obtain ⟨rest, later, h⟩ := of_bind_ok h
      cases h
      rw [first, ih.mp later, List.map_cons]
    · intro h
      cases bs with
      | nil => cases h
      | cons b rest =>
        rw [List.map_cons, List.cons.injEq] at h
        rw [h.1, ih.mpr h.2]
        rfl

/-- Things can be read one after the other just if each of them can be read. -/
theorem exists_mapM_ok {f : α → Except ε β} {as : List α} :
    (∃ bs, as.mapM f = .ok bs) ↔ ∀ a ∈ as, ∃ b, f a = .ok b := by
  simp only [mapM_ok_iff]
  induction as with
  | nil => simp
  | cons a as ih =>
    rw [List.forall_mem_cons, ← ih]
    constructor
    · rintro ⟨bs, h⟩
      cases bs with
      | nil => cases h
      | cons b rest =>
        rw [List.map_cons, List.map_cons, List.cons.injEq] at h
        exact ⟨⟨b, h.1⟩, rest, h.2⟩
    · rintro ⟨⟨b, first⟩, rest, later⟩
      exact ⟨b :: rest, by rw [List.map_cons, List.map_cons, first, later]⟩

end ApiReference
