import Mathlib
import ApiReference.Text.Alphanumeric
import ApiReference.Text.Blank

/-!
Trimming takes white space off both ends and stops at the first character that is none, as
letters and numbers are.
-/

namespace ApiReference.Text

/-- The code points with the property White_Space. -/
def blankPoints : List Nat :=
  [0x9, 0xA, 0xB, 0xC, 0xD, 0x20, 0x85, 0xA0, 0x1680, 0x2000, 0x2001, 0x2002, 0x2003, 0x2004,
    0x2005, 0x2006, 0x2007, 0x2008, 0x2009, 0x200A, 0x2028, 0x2029, 0x202F, 0x205F, 0x3000]

private theorem mem_blankPoints {c : Char} (h : isBlank c = true) : c.toNat ∈ blankPoints := by
  unfold isBlank at h
  simp only [Bool.or_eq_true, Bool.and_eq_true, decide_eq_true_eq, beq_iff_eq] at h
  simp only [blankPoints, List.mem_cons, List.not_mem_nil, or_false]
  omega

/-- No letter and no number is white space. -/
theorem isBlank_of_isAlphanumeric {c : Char} (h : isAlphanumeric c = true) :
    isBlank c = false := by
  have none : ∀ n ∈ blankPoints, isAlphanumeric (Char.ofNat n) = false := by decide +kernel
  by_contra blank
  have listed := mem_blankPoints (by simpa using blank)
  have clash := none c.toNat listed
  rw [Char.ofNat_toNat, h] at clash
  cases clash

/-- A text that neither starts nor ends with white space. -/
structure Tight (cs : List Char) : Prop where
  head : ∃ c rest, cs = c :: rest ∧ isBlank c = false
  last : ∃ before c, cs = before ++ [c] ∧ isBlank c = false

theorem Tight.ne_nil {cs : List Char} (h : Tight cs) : cs ≠ [] := by
  obtain ⟨c, rest, rfl, -⟩ := h.head
  exact List.cons_ne_nil c rest

theorem tight_of_ends {first last : Char} (middle : List Char) (hf : isBlank first = false)
    (hl : isBlank last = false) : Tight (first :: (middle ++ [last])) :=
  ⟨⟨first, _, rfl, hf⟩, ⟨first :: middle, last, rfl, hl⟩⟩

theorem tight_of_forall {cs : List Char} (nonempty : cs ≠ [])
    (h : ∀ c ∈ cs, isBlank c = false) : Tight cs := by
  constructor
  · cases cs with
    | nil => exact absurd rfl nonempty
    | cons c rest => exact ⟨c, rest, rfl, h c List.mem_cons_self⟩
  · rcases List.eq_nil_or_concat cs with rfl | ⟨before, c, rfl⟩
    · exact absurd rfl nonempty
    · rw [List.concat_eq_append] at h ⊢
      exact ⟨before, c, rfl, h c (by simp)⟩

theorem tight_iff {cs : List Char} :
    Tight cs ↔ cs.head?.any (fun c => !isBlank c) = true ∧
      cs.getLast?.any (fun c => !isBlank c) = true := by
  constructor
  · rintro ⟨⟨c, rest, starts, first⟩, before, d, ends, last⟩
    refine ⟨?_, ?_⟩
    · simp [starts, first]
    · simp [ends, last]
  · rintro ⟨first, last⟩
    rw [Option.any_eq_true] at first last
    obtain ⟨c, starts, visible⟩ := first
    obtain ⟨d, ends, visible'⟩ := last
    obtain ⟨rest, rfl⟩ := List.head?_eq_some_iff.mp starts
    obtain ⟨before, split⟩ := List.getLast?_eq_some_iff.mp ends
    exact ⟨⟨c, rest, rfl, by simpa using visible⟩, ⟨before, d, split, by simpa using visible'⟩⟩

/-- A text between tight ones is tight. -/
theorem Tight.append {cs ds : List Char} (middle : List Char) (h : Tight cs) (k : Tight ds) :
    Tight (cs ++ middle ++ ds) := by
  obtain ⟨c, rest, hc, first⟩ := h.head
  obtain ⟨before, d, hd, last⟩ := k.last
  refine ⟨⟨c, rest ++ middle ++ ds, by simp [hc], first⟩,
    ⟨cs ++ middle ++ before, d, by simp [hd], last⟩⟩

/-- White space around a tight text is what trimming takes off. -/
theorem trim_tight {pre cs post : List Char} (before : ∀ c ∈ pre, isBlank c = true)
    (h : Tight cs) (after : ∀ c ∈ post, isBlank c = true) : trim (pre ++ cs ++ post) = cs := by
  obtain ⟨c, rest, hc, first⟩ := h.head
  obtain ⟨start, d, hd, last⟩ := h.last
  have left : trimStart (pre ++ cs ++ post) = cs ++ post := by
    unfold trimStart
    rw [List.append_assoc, List.dropWhile_append_of_pos before, hc, List.cons_append,
      List.dropWhile_cons_of_neg (by simp [first])]
  have right : trimEnd (cs ++ post) = cs := by
    unfold trimEnd
    rw [List.reverse_append, List.dropWhile_append_of_pos (by simpa using after), hd,
      List.reverse_append, List.reverse_singleton, List.singleton_append,
      List.dropWhile_cons_of_neg (by simp [last])]
    simp
  rw [trim, left, right]

theorem trim_of_tight {cs : List Char} (h : Tight cs) : trim cs = cs := by
  have none : ∀ c ∈ ([] : List Char), isBlank c = true := by simp
  simpa using trim_tight none h none

theorem trimStart_of_tight {cs : List Char} (h : Tight cs) : trimStart cs = cs := by
  obtain ⟨c, rest, rfl, first⟩ := h.head
  exact List.dropWhile_cons_of_neg (by simp [first])

private theorem trimStart_eq (cs : List Char) :
    trimStart cs = trim cs ++ ((trimStart cs).reverse.takeWhile isBlank).reverse := by
  rw [trim, trimEnd, ← List.reverse_append, List.takeWhile_append_dropWhile, List.reverse_reverse]

/-- A text is what trimming leaves of it, with white space around that. -/
theorem exists_trim (cs : List Char) :
    ∃ pre post, cs = pre ++ trim cs ++ post ∧ (∀ c ∈ pre, isBlank c = true) ∧
      ∀ c ∈ post, isBlank c = true := by
  refine ⟨cs.takeWhile isBlank, ((trimStart cs).reverse.takeWhile isBlank).reverse, ?_,
    fun c hc => ?_, fun c hc => ?_⟩
  · rw [List.append_assoc, ← trimStart_eq, trimStart, List.takeWhile_append_dropWhile]
  · exact List.mem_takeWhile_imp hc
  · exact List.mem_takeWhile_imp (List.mem_reverse.mp hc)

private theorem not_blank_of_dropWhile {cs rest : List Char} {c : Char}
    (h : cs.dropWhile isBlank = c :: rest) : isBlank c = false := by
  have first := List.head?_dropWhile_not isBlank cs
  rw [h] at first
  exact first

theorem tight_trim {cs : List Char} (nonempty : trim cs ≠ []) : Tight (trim cs) := by
  constructor
  · obtain ⟨first, rest, shape⟩ := List.exists_cons_of_ne_nil nonempty
    have whole := trimStart_eq cs
    rw [shape, List.cons_append] at whole
    exact ⟨first, rest, shape, not_blank_of_dropWhile whole⟩
  · obtain ⟨last, before, backwards⟩ :=
      List.exists_cons_of_ne_nil (by simpa using nonempty : (trim cs).reverse ≠ [])
    have turned : (trimStart cs).reverse.dropWhile isBlank = last :: before := by
      rw [← backwards, trim, trimEnd, List.reverse_reverse]
    refine ⟨before.reverse, last, ?_, not_blank_of_dropWhile turned⟩
    rw [← List.reverse_reverse (trim cs), backwards, List.reverse_cons]

theorem trim_trim (cs : List Char) : trim (trim cs) = trim cs := by
  by_cases empty : trim cs = []
  · rw [empty]
    rfl
  · exact trim_of_tight (tight_trim empty)

theorem trim_ne_nil_iff {cs : List Char} :
    trim cs ≠ [] ↔ ∃ c ∈ cs, isBlank c = false := by
  obtain ⟨pre, post, whole, before, after⟩ := exists_trim cs
  constructor
  · intro nonempty
    obtain ⟨c, rest, starts, visible⟩ := (tight_trim nonempty).head
    refine ⟨c, ?_, visible⟩
    rw [whole, starts]
    simp
  · rintro ⟨c, hc, visible⟩ empty
    rw [whole, empty, List.append_nil] at hc
    rcases List.mem_append.mp hc with left | right
    · rw [before c left] at visible
      cases visible
    · rw [after c right] at visible
      cases visible

end ApiReference.Text
