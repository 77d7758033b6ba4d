import Mathlib
import ApiReference.Text.Blank
import ApiReference.Text.Case

/-!
What changing the case of a character leaves alone: every character below the capitals, such as
white space, digits and most punctuation, is the image of itself only (`eq_of_mem_upper`,
`eq_of_mem_lower`). Small letters other than `k` come from ASCII letters alone, so that a word of
such letters is met in any letter case by ASCII texts only (`lowercase_eq_iff`). Texts agree but for
the case of ASCII letters if they are the same in small letters (`equalIgnoringCase_iff_asciiLower`).
-/

namespace ApiReference.Text

/-- Whether no character is mapped below the capitals. -/
def MapsUp (shifts : List Shift) (expansions : List (Nat × List Nat)) : Prop :=
  (∀ s ∈ shifts, (0x41 : Int) ≤ s.first + s.offset) ∧ ∀ e ∈ expansions, ∀ n ∈ e.2, 0x41 ≤ n

instance (shifts : List Shift) (expansions : List (Nat × List Nat)) :
    Decidable (MapsUp shifts expansions) :=
  inferInstanceAs (Decidable (_ ∧ _))

theorem Shift.le_image? {s : Shift} {n m : Nat} (up : (0x41 : Int) ≤ s.first + s.offset)
    (h : s.image? n = some m) : 0x41 ≤ m := by
  unfold Shift.image? at h
  split at h
  · rename_i within
    simp only [Bool.and_eq_true, decide_eq_true_eq] at within
    obtain rfl := Option.some.inj h
    simp only [Int.ofNat_eq_natCast]
    omega
  · cases h

private theorem toNat_ofNat_or (n : Nat) : (Char.ofNat n).toNat = n ∨ (Char.ofNat n).toNat = 0 := by
  rw [Char.toNat_ofNat]
  split
  · exact .inl rfl
  · exact .inr rfl

/-- A character that is mapped stays itself, or its image is among the capitals or above. -/
theorem eq_of_mem_mapCase {shifts : List Shift} {expansions : List (Nat × List Nat)}
    (up : MapsUp shifts expansions) {c d : Char} (h : d ∈ mapCase shifts expansions c)
    (visible : 0 < d.toNat) (low : d.toNat < 0x41) : d = c := by
  -- A number that is no code point makes the null character, which is below the capitals as well.
  have notImage {n : Nat} (high : 0x41 ≤ n) (image : d = Char.ofNat n) : d = c := by
    rw [image] at visible low
    rcases toNat_ofNat_or n with same | zero <;> omega
  unfold mapCase at h
  split at h
  · rename_i ns found
    obtain ⟨n, among, image⟩ := List.mem_map.mp h
    obtain ⟨before, after, split, _⟩ := List.lookup_eq_some_iff.mp found
    have listed : (c.toNat, ns) ∈ expansions := by simp [split]
    exact notImage (up.2 _ listed n among) image.symm
  · split at h
    · rename_i n found
      obtain ⟨s, hs, image⟩ := List.exists_of_findSome?_eq_some found
      exact notImage (Shift.le_image? (up.1 s hs) image) (List.mem_singleton.mp h)
    · exact List.mem_singleton.mp h

private theorem eq_of_mem_case {f : Char → Char} {shifts : List Shift}
    {expansions : List (Nat × List Nat)}
    (kept : ∀ n < 0x80, (f (Char.ofNat n)).toNat < 0x41 → f (Char.ofNat n) = Char.ofNat n)
    (up : MapsUp shifts expansions) {c d : Char}
    (h : d ∈ if c.toNat < 0x80 then [f c] else mapCase shifts expansions c)
    (visible : 0 < d.toNat) (low : d.toNat < 0x41) : d = c := by
  split at h
  · rename_i ascii
    obtain rfl := List.mem_singleton.mp h
    have same := kept c.toNat ascii
    rw [Char.ofNat_toNat] at same
    exact same low
  · exact eq_of_mem_mapCase up h visible low

/-- What is below the capitals is the capital form of itself only. -/
theorem eq_of_mem_upper {c d : Char} (h : d ∈ upper c) (visible : 0 < d.toNat)
    (low : d.toNat < 0x41) : d = c :=
  eq_of_mem_case (f := Char.toUpper) (by decide +kernel) (by decide +kernel) h visible low

/-- What is below the capitals is the small form of itself only. -/
theorem eq_of_mem_lower {c d : Char} (h : d ∈ lower c) (visible : 0 < d.toNat)
    (low : d.toNat < 0x41) : d = c :=
  eq_of_mem_case (f := Char.toLower) (by decide +kernel) (by decide +kernel) h visible low

/-! ## ASCII words -/

theorem toLower_of_not_capital {c : Char} (h : c.toNat < 0x41 ∨ 0x5A < c.toNat) :
    c.toLower = c := by
  have noCapital : ¬('A' ≤ c ∧ c ≤ 'Z') := by
    rintro ⟨ge, le⟩
    have large : 0x41 ≤ c.toNat := ge
    have small : c.toNat ≤ 0x5A := le
    omega
  unfold Char.toLower
  exact dif_neg noCapital

theorem toLower_toLower (c : Char) : c.toLower.toLower = c.toLower := by
  have ascii : ∀ n < 0x80, (Char.ofNat n).toLower.toLower = (Char.ofNat n).toLower := by
    decide +kernel
  by_cases low : c.toNat < 0x80
  · have same := ascii c.toNat low
    rwa [Char.ofNat_toNat] at same
  · have same := toLower_of_not_capital (c := c) (.inr (by omega))
    rw [same, same]

theorem asciiLower_asciiLower (s : String) : asciiLower (asciiLower s) = asciiLower s := by
  rw [asciiLower, asciiLower, String.toList_ofList, List.map_map]
  exact congrArg String.ofList (List.map_congr_left fun c _ => toLower_toLower c)

theorem equalIgnoringCase_iff_asciiLower {a b : String} :
    equalIgnoringCase a b = true ↔ asciiLower a = asciiLower b := by
  rw [equalIgnoringCase, beq_iff_eq, asciiLower, asciiLower, String.ofList_inj]

theorem equalIgnoringCase_congr {a a' b b' : String} (left : asciiLower a = asciiLower a')
    (right : asciiLower b = asciiLower b') : equalIgnoringCase a b = equalIgnoringCase a' b' := by
  rw [Bool.eq_iff_iff, equalIgnoringCase_iff_asciiLower, equalIgnoringCase_iff_asciiLower, left,
    right]

/-- Whether a shift maps to characters outside ASCII, or to a `k`. -/
def Shift.Leaves (s : Shift) : Prop :=
  (s.first = s.last ∧ s.first + s.offset = 0x6B) ∨
    (0x80 ≤ s.first + s.offset ∧ s.last + s.offset < 0xD800) ∨
    (0xE000 ≤ s.first + s.offset ∧ s.last + s.offset < 0x110000)

instance (s : Shift) : Decidable s.Leaves := inferInstanceAs (Decidable (_ ∨ _ ∨ _))

theorem Shift.image?_of_leaves {s : Shift} {n m : Nat} (leaves : s.Leaves)
    (h : s.image? n = some m) : Char.ofNat m = 'k' ∨ 0x80 ≤ (Char.ofNat m).toNat := by
  unfold Shift.image? at h
  split at h
  · rename_i within
    simp only [Bool.and_eq_true, decide_eq_true_eq] at within
    obtain rfl := Option.some.inj h
    simp only [Int.ofNat_eq_natCast]
    rcases leaves with ⟨one, image⟩ | outside | outside
    · left
      have letter : (n + s.offset).toNat = 0x6B := by omega
      rw [letter]
    all_goals
      right
      rw [Char.toNat_ofNat, if_pos (by unfold Nat.isValidChar; omega)]
      omega
  · cases h

/-- The small form of a character outside ASCII is not made of ASCII characters, unless it is a
`k`. -/
theorem exists_mem_lower {c : Char} (h : 0x80 ≤ c.toNat) :
    ∃ d ∈ lower c, d = 'k' ∨ 0x80 ≤ d.toNat := by
  have expansions : ∀ e ∈ lowerExpansions, ∃ n ∈ e.2, 0x80 ≤ (Char.ofNat n).toNat := by
    decide +kernel
  have shifts : ∀ s ∈ lowerShifts, s.Leaves := by decide +kernel
  rw [lower, if_neg (by omega), mapCase]
  split
  · rename_i ns found
    obtain ⟨before, after, split, _⟩ := List.lookup_eq_some_iff.mp found
    have listed : (c.toNat, ns) ∈ lowerExpansions := by simp [split]
    obtain ⟨n, among, outside⟩ := expansions _ listed
    exact ⟨_, List.mem_map_of_mem among, .inr outside⟩
  · split
    · rename_i n found
      obtain ⟨s, hs, image⟩ := List.exists_of_findSome?_eq_some found
      exact ⟨_, List.mem_singleton_self _, Shift.image?_of_leaves (shifts s hs) image⟩
    · exact ⟨c, List.mem_singleton_self c, .inr h⟩

private theorem flatMap_lower {cs : List Char} (ascii : ∀ c ∈ cs, c.toNat < 0x80) :
    cs.flatMap lower = cs.map Char.toLower := by
  induction cs with
  | nil => rfl
  | cons c cs ih =>
    rw [List.flatMap_cons, List.map_cons, ih fun d hd => ascii d (List.mem_cons_of_mem c hd), lower,
      if_pos (ascii c List.mem_cons_self), List.singleton_append]

/-- A text is an ASCII word in another letter case just if it is so among the ASCII letters. Only
`k` is the small form of a letter outside ASCII, the sign for kelvins. -/
theorem lowercase_eq_iff {s word : String} (plain : ∀ c ∈ word.toList, c.toNat < 0x80 ∧ c ≠ 'k') :
    lowercase s = word ↔ s.toList.map Char.toLower = word.toList := by
  have same : lowercase s = word ↔ s.toList.flatMap lower = word.toList := by
    rw [lowercase, ← String.toList_inj, String.toList_ofList]
  rw [same]
  constructor
  · intro h
    have ascii : ∀ c ∈ s.toList, c.toNat < 0x80 := by
      intro c hc
      by_contra outside
      obtain ⟨d, hd, other⟩ := exists_mem_lower (Nat.le_of_not_lt outside)
      have letter := plain d (h ▸ List.mem_flatMap.mpr ⟨c, hc, hd⟩)
      rcases other with rfl | outside
      · exact letter.2 rfl
      · omega
    rw [← h, flatMap_lower ascii]
  · intro h
    have ascii : ∀ c ∈ s.toList, c.toNat < 0x80 := by
      intro c hc
      by_contra outside
      have letter := plain c.toLower (h ▸ List.mem_map_of_mem hc)
      rw [toLower_of_not_capital (by omega)] at letter
      exact outside letter.1
    rw [flatMap_lower ascii, h]

end ApiReference.Text
