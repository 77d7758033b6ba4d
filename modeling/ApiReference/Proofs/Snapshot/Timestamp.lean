import ApiReference.Proofs.Text.Trim
import ApiReference.Snapshot.Timestamp

/-!
Points in time read back from their texts, in every year that they can have. A number is written
in a fixed count of digits or before a mark, so that reading stops where it ends.
-/

namespace ApiReference.Timestamp

/-! ## Numbers -/

/-- Digits that are read as a number. -/
structure Spells (cs : List Char) (n : Nat) : Prop where
  nonempty : cs ≠ []
  digits : ∀ c ∈ cs, c.isDigit = true
  value : cs.foldl (fun n c => 10 * n + (c.toNat - '0'.toNat)) 0 = n

theorem spells_padded (width n : Nat) : Spells (padded width n) n := by
  refine ⟨?_, ?_, ?_⟩
  · simp [padded, Nat.toDigits_ne_nil]
  · intro c hc
    rcases List.mem_append.mp hc with zero | digit
    · rw [List.eq_of_mem_replicate zero]
      rfl
    · exact Nat.isDigit_of_mem_toDigits (by omega) (by omega) digit
  · rw [← Nat.ofDigitChars_eq_foldl, padded]
    rw [Nat.ofDigitChars_append, Nat.ofDigitChars_replicate_zero, Nat.mul_zero,
      Nat.ofDigitChars_ten_toDigits]

theorem length_padded (width n : Nat) (h : n < 10 ^ width) (pos : 0 < width) :
    (padded width n).length = width := by
  have short := (Nat.length_toDigits_le_iff (b := 10) (by omega) pos).mpr h
  simp only [padded, List.length_append, List.length_replicate]
  omega

private theorem not_blank_of_isDigit {c : Char} (h : c.isDigit = true) :
    Text.isBlank c = false := by
  refine Text.isBlank_of_isAlphanumeric ?_
  simp [Text.isAlphanumeric, Char.isAlphanum, h]

theorem Spells.trimStart {cs : List Char} {n : Nat} (h : Spells cs n) (rest : List Char) :
    Text.trimStart (cs ++ rest) = cs ++ rest := by
  cases cs with
  | nil => exact absurd rfl h.nonempty
  | cons c cs =>
    have first := not_blank_of_isDigit (h.digits c List.mem_cons_self)
    rw [Text.trimStart, List.cons_append, List.dropWhile_cons_of_neg (by simp [first])]

theorem Spells.takeWhile {cs : List Char} {n : Nat} (h : Spells cs n) {rest : List Char}
    (stop : ∀ c ∈ rest.head?, c.isDigit = false) : (cs ++ rest).takeWhile Char.isDigit = cs := by
  have none : rest.takeWhile Char.isDigit = [] := by
    cases rest with
    | nil => rfl
    | cons c rest => simp [stop c rfl]
  rw [List.takeWhile_append_of_pos h.digits, none, List.append_nil]

/-- A number is read if the text goes on with something else, or there are enough digits. -/
theorem Spells.readDigits {cs : List Char} {n width : Nat} (h : Spells cs n)
    (fits : cs.length ≤ width) (rest : List Char)
    (stop : ∀ c ∈ (rest.take (width - cs.length)).head?, c.isDigit = false) :
    readDigits width (cs ++ rest) = some (n, rest) := by
  have taken : (cs ++ rest).take width = cs ++ rest.take (width - cs.length) := by
    rw [List.take_append, List.take_of_length_le fits]
  have some : cs.isEmpty = false := by simpa using h.nonempty
  unfold Timestamp.readDigits
  simp only [h.trimStart, taken, h.takeWhile stop, some, h.value, List.drop_left,
    Bool.false_eq_true, if_false]

theorem readDigits_padded (width n : Nat) (h : n < 10 ^ width) (pos : 0 < width)
    (rest : List Char) : readDigits width (padded width n ++ rest) = some (n, rest) := by
  have length := length_padded width n h pos
  refine (spells_padded width n).readDigits (by omega) rest ?_
  rw [length, Nat.sub_self]
  simp

/-! ## Parts of a date -/

theorem readMark_cons (mark : Char) (h : Text.isBlank mark = false) (rest : List Char) :
    readMark mark (mark :: rest) = some rest := by
  unfold readMark
  rw [Text.trimStart, List.dropWhile_cons_of_neg (by simp [h])]
  simp

private theorem spells_cons {cs : List Char} {n : Nat} (h : Spells cs n) :
    ∃ c rest, cs = c :: rest ∧ c.isDigit = true := by
  cases cs with
  | nil => exact absurd rfl h.nonempty
  | cons c rest => exact ⟨c, rest, rfl, h.digits c List.mem_cons_self⟩

/-- A year without a sign has four digits. -/
private theorem readYear_digits {cs : List Char} {n : Nat} (h : Spells cs n)
    (length : cs.length = 4) (rest : List Char) : readYear (cs ++ rest) = some ((n : Int), rest) := by
  have read : readDigits 4 (cs ++ rest) = some (n, rest) :=
    h.readDigits (by omega) rest (by simp [length])
  obtain ⟨c, digits, cons, digit⟩ := spells_cons h
  unfold readYear
  rw [h.trimStart]
  split
  · rename_i start
    rw [cons] at start
    cases start
    cases digit
  · rename_i start
    rw [cons] at start
    cases start
    cases digit
  · rw [read]
    rfl

/-- A year with a sign has all digits up to the next mark. -/
private theorem readYear_sign {cs : List Char} {n : Nat} (h : Spells cs n) (rest : List Char) :
    readYear ('-' :: (cs ++ '-' :: rest)) = some (-(n : Int), '-' :: rest) ∧
      readYear ('+' :: (cs ++ '-' :: rest)) = some ((n : Int), '-' :: rest) := by
  have stop : ∀ d ∈ (('-' :: rest).take ((cs ++ '-' :: rest).length - cs.length)).head?,
      d.isDigit = false := by
    intro d hd
    have length : (cs ++ '-' :: rest).length - cs.length = rest.length + 1 := by simp
    rw [length] at hd
    cases hd
    rfl
  have read := h.readDigits (by simp) ('-' :: rest) stop
  obtain ⟨c, digits, cons, digit⟩ := spells_cons h
  have first : (cs ++ '-' :: rest).head?.any Char.isDigit = true := by simp [cons, digit]
  have minus : Text.isBlank '-' = false := by decide
  have plus : Text.isBlank '+' = false := by decide
  constructor
  · unfold readYear
    rw [Text.trimStart, List.dropWhile_cons_of_neg (by simp [minus])]
    simp only [first, if_true, read]
    rfl
  · unfold readYear
    rw [Text.trimStart, List.dropWhile_cons_of_neg (by simp [plus])]
    simp only [first, if_true, read]
    rfl

/-- A year is read up to the mark after it. -/
theorem readYear_yearText (year : Int) (rest : List Char) :
    readYear (yearText year ++ '-' :: rest) = some (year, '-' :: rest) := by
  unfold yearText
  split
  · rename_i plain
    simp only [Bool.and_eq_true, decide_eq_true_eq] at plain
    have small : year.toNat < 10 ^ 4 := by omega
    rw [readYear_digits (spells_padded 4 year.toNat) (length_padded 4 _ small (by omega))]
    rw [Int.toNat_of_nonneg plain.1]
  · obtain ⟨minus, plus⟩ := readYear_sign (spells_padded 4 year.natAbs) rest
    split
    · rename_i negative
      have value : -(year.natAbs : Int) = year := by omega
      rw [value] at minus
      exact minus
    · rename_i negative
      have value : (year.natAbs : Int) = year := by omega
      rw [value] at plus
      exact plus

private theorem readFraction_digits {cs : List Char} {n : Nat} (h : Spells cs n)
    (short : cs.length ≤ 9) :
    readFraction ('.' :: (cs ++ ['Z'])) = some (n * 10 ^ (9 - cs.length), ['Z']) := by
  have all : (cs ++ ['Z']).takeWhile Char.isDigit = cs := by
    refine h.takeWhile ?_
    rintro c ⟨⟩
    rfl
  have some : cs.isEmpty = false := by simpa using h.nonempty
  unfold readFraction
  simp only [all, List.take_of_length_le short, some, h.value, List.drop_left,
    Bool.false_eq_true, if_false]
  rfl

/-- A fraction is read with the noughts that its text leaves out. -/
theorem readFraction_fractionText {nano : Nat} (h : nano < 1000000000) :
    readFraction (fractionText nano ++ ['Z']) = some (nano, ['Z']) := by
  unfold fractionText
  split
  · rename_i none
    rw [beq_iff_eq.mp none]
    rfl
  split
  · rename_i milli
    have whole : nano % 1000000 = 0 := beq_iff_eq.mp milli
    have length := length_padded 3 (nano / 1000000) (by omega) (by omega)
    have read := readFraction_digits (spells_padded 3 (nano / 1000000)) (by omega)
    have value : nano / 1000000 * 10 ^ (9 - 3) = nano := by omega
    rw [length, value] at read
    exact read
  split
  · rename_i micro
    have whole : nano % 1000 = 0 := beq_iff_eq.mp micro
    have length := length_padded 6 (nano / 1000) (by omega) (by omega)
    have read := readFraction_digits (spells_padded 6 (nano / 1000)) (by omega)
    have value : nano / 1000 * 10 ^ (9 - 6) = nano := by omega
    rw [length, value] at read
    exact read
  · have length := length_padded 9 nano (by omega) (by omega)
    have read := readFraction_digits (spells_padded 9 nano) (by omega)
    rw [length, Nat.sub_self, Nat.pow_zero, Nat.mul_one] at read
    exact read

/-! ## Whole dates -/

private theorem ofFields?_self (t : Timestamp) :
    ofFields? t.year t.month t.day t.hour t.minute t.second t.nano = some t := by
  unfold ofFields?
  rw [dif_pos t.valid]

theorem shift_zero (t : Timestamp) : t.shift 0 = some t := by
  obtain ⟨year, month, day, hour, minute, second, nano, valid⟩ := t
  have bounds := valid
  simp only [isPointInTime, Bool.and_eq_true, decide_eq_true_eq] at bounds
  have today : (60 * (hour : Int) + minute - 0) / 1440 = 0 := by omega
  have left : ((60 * (hour : Int) + minute - 0) % 1440).toNat = 60 * hour + minute := by omega
  have hours : (60 * hour + minute) / 60 = hour := by omega
  have minutes : (60 * hour + minute) % 60 = minute := by omega
  unfold shift
  simp only [today, left, hours, minutes, stepDay]
  exact ofFields?_self ⟨year, month, day, hour, minute, second, nano, valid⟩

/-- A point in time is read back from its text. -/
theorem ofText?_text (t : Timestamp) : ofText? t.text = some t := by
  have bounds := t.valid
  simp only [isPointInTime, Bool.and_eq_true, decide_eq_true_eq] at bounds
  have days : t.day ≤ 31 := by
    have most : daysOfMonth t.year t.month ≤ 31 := by
      unfold daysOfMonth
      split_ifs <;> omega
    omega
  have dash := readMark_cons '-' (by decide)
  have colon := readMark_cons ':' (by decide)
  have two (n : Nat) (h : n < 100) := readDigits_padded 2 n (by omega) (by omega)
  have offset : readOffset (Text.trimStart ['Z']) = some (0, []) := by decide
  unfold ofText? text
  rw [String.toList_ofList]
  simp only [List.append_assoc, List.cons_append, readYear_yearText, dash, colon,
    two t.month (by omega), two t.day (by omega), two t.hour (by omega), two t.minute (by omega),
    two t.second (by omega), readFraction_fractionText (by omega : t.nano < 1000000000), offset,
    ofFields?_self, shift_zero, bind, Option.bind]
  rfl

end ApiReference.Timestamp
