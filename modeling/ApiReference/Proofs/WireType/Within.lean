import ApiReference.Proofs.WireType.RoundTrip

/-!
Types told by what stands in them. A type is orderly if the names and the unions in it are, at
every depth (`orderly_iff`), and so it can be read back from its notation if no name in it could be
taken for something else (`ofNotation_of_plainNames`).
-/

namespace ApiReference.WireType

/-- Whether a type stands in another, or is it: among its elements or its alternatives, at any
depth. -/
inductive Within (inner : WireType) : WireType → Prop where
  | here : Within inner inner
  | element {element : WireType} : Within inner element → Within inner (.array element)
  | member {m : WireType} {members : List WireType} : m ∈ members → Within inner m →
    Within inner (.union members)

variable {named foreign : String → Prop}

/-- What stands in an orderly type is orderly. -/
theorem Orderly.within {inner t : WireType} (h : t.Orderly named foreign) (w : inner.Within t) :
    inner.Orderly named foreign := by
  induction w with
  | here => exact h
  | element _ ih =>
    cases h with
    | array element => exact ih element
  | member among _ ih =>
    cases h with
    | union _ members _ => exact ih (members _ among)

theorem Orderly.named_within {name : String} {t : WireType} (h : t.Orderly named foreign)
    (w : (WireType.named name).Within t) : named name := by
  cases h.within w with
  | named holds => exact holds

theorem Orderly.foreign_within {name : String} {t : WireType} (h : t.Orderly named foreign)
    (w : (WireType.foreign name).Within t) : foreign name := by
  cases h.within w with
  | foreign holds => exact holds

theorem Orderly.union_within {members : List WireType} {t : WireType} (h : t.Orderly named foreign)
    (w : (WireType.union members).Within t) :
    2 ≤ members.length ∧ ∀ m ∈ members, m.isUnion = false := by
  cases h.within w with
  | union several _ single => exact ⟨several, single⟩

/-- A type is orderly if all that stands in it is: there is no more to it. -/
theorem orderly_of_within : ∀ t : WireType,
    (∀ name, (WireType.named name).Within t → named name) →
    (∀ name, (WireType.foreign name).Within t → foreign name) →
    (∀ members, (WireType.union members).Within t →
      2 ≤ members.length ∧ ∀ m ∈ members, m.isUnion = false) →
    t.Orderly named foreign
  | .scalar kind, _, _, _ => .scalar kind
  | .array element, names, foreigners, unions =>
    .array <| orderly_of_within element (fun name w => names name w.element)
      (fun name w => foreigners name w.element) fun members w => unions members w.element
  | .union members, names, foreigners, unions => by
    obtain ⟨several, single⟩ := unions members .here
    refine .union several (fun m among => ?_) single
    exact orderly_of_within m (fun name w => names name (.member among w))
      (fun name w => foreigners name (.member among w)) fun inner w => unions inner (.member among w)
  | .named name, names, _, _ => .named (names name .here)
  | .foreign name, _, foreigners, _ => .foreign (foreigners name .here)

theorem orderly_iff {t : WireType} : t.Orderly named foreign ↔
    (∀ name, (WireType.named name).Within t → named name) ∧
    (∀ name, (WireType.foreign name).Within t → foreign name) ∧
    ∀ members, (WireType.union members).Within t →
      2 ≤ members.length ∧ ∀ m ∈ members, m.isUnion = false := by
  constructor
  · intro h
    exact ⟨fun _ => h.named_within, fun _ => h.foreign_within, fun _ => h.union_within⟩
  · rintro ⟨names, foreigners, unions⟩
    exact orderly_of_within t names foreigners unions

/-! ## Plain names -/

theorem nameLike_of_capital {name : String} (capital : name.toList.head?.any Char.isUpper = true)
    (letters : ∀ c ∈ name.toList, Text.isAlphanumeric c = true) : NameLike name := by
  unfold NameLike
  cases shape : name.toList with
  | nil =>
    rw [shape] at capital
    cases capital
  | cons c cs =>
    rw [shape] at capital letters
    rw [isName, List.all_eq_true.mpr letters, Bool.and_true]
    exact capital

theorem enclosedName_of_noMarks {name : String}
    (noMarks : ∀ c ∈ name.toList, c ∉ ['[', ']', '(', ')', '|']) : EnclosedName name := by
  refine (solid_of_forall fun c hc => ?_).enclosed
  have other := noMarks c hc
  simp only [List.mem_cons, List.not_mem_nil, or_false, not_or] at other
  simp [isMark, other]

/-- A type is read back from its notation if each name of a data type in it is a capital and other
letters and digits, each foreign name is without brackets and bars, and each union has two
alternatives at least, none of them a union itself. -/
theorem ofNotation_of_plainNames {t : WireType}
    (names : ∀ name, (WireType.named name).Within t →
      name.toList.head?.any Char.isUpper = true ∧
        ∀ c ∈ name.toList, Text.isAlphanumeric c = true)
    (foreigners : ∀ name, (WireType.foreign name).Within t →
      ∀ c ∈ name.toList, c ∉ ['[', ']', '(', ')', '|'])
    (unions : ∀ members, (WireType.union members).Within t →
      2 ≤ members.length ∧ ∀ m ∈ members, m.isUnion = false) :
    ofNotation (notationOf t) = .ok t := by
  have orderly : t.Orderly NameLike EnclosedName := by
    rw [orderly_iff]
    refine ⟨fun name w => ?_, fun name w => ?_, unions⟩
    · obtain ⟨capital, letters⟩ := names name w
      exact nameLike_of_capital capital letters
    · exact enclosedName_of_noMarks (foreigners name w)
  exact orderly.readable

/-- Two arrays between brackets of their own, one with alternatives inside. -/
def twoArrays : WireType :=
  .union [.array (.named "A"), .array (.union [.named "B", .foreign "C d"])]

private theorem orderly_twoArrays :
    twoArrays.Orderly (fun name => name = "A" ∨ name = "B") (fun name => name = "C d") := by
  have inner : (WireType.union [.named "B", .foreign "C d"]).Orderly
      (fun name => name = "A" ∨ name = "B") (fun name => name = "C d") :=
    .union (by decide) (by simpa using ⟨.named (.inr rfl), .foreign rfl⟩) (by simp [isUnion])
  exact .union (by decide) (by simpa using ⟨.array (.named (.inl rfl)), inner.array⟩)
    (by simp [isUnion])

/-- The notation of two arrays is not taken for one array. -/
theorem ofNotation_twoArrays :
    notationOf twoArrays = "[A] | [B | opaque(C d)]" ∧
      ofNotation (notationOf twoArrays) = .ok twoArrays := by
  refine ⟨by decide +kernel, ofNotation_of_plainNames (fun name w => ?_) (fun name w => ?_)
    fun members w => orderly_twoArrays.union_within w⟩
  · have letters : Text.isAlphanumeric 'A' = true ∧ Text.isAlphanumeric 'B' = true := by
      decide +kernel
    rcases orderly_twoArrays.named_within w with rfl | rfl
    · simp [letters.1]
    · simp [letters.2]
  · rw [orderly_twoArrays.foreign_within w]
    simp

end ApiReference.WireType
