import Mathlib
import ApiReference.Proofs.Text.Digits
import ApiReference.Toml.Print

/-!
Strings and integers of TOML, read back from what is written for them. A string is written in one of
five ways; each is read as the string whatever comes after it on later lines.
-/

namespace ApiReference.Toml

/-! ## Characters -/

theorem isPlain_of_not_needsEscape {c : Char} (h : needsEscape c = false) (line : c ≠ '\n') :
    isPlain c = true := by
  simp only [needsEscape, isPlain, Bool.or_eq_false_iff, Bool.and_eq_false_iff,
    decide_eq_false_iff_not, bne_eq_false_iff_eq, Bool.or_eq_true, Bool.and_eq_true,
    decide_eq_true_eq, beq_iff_eq, bne_iff_ne, beq_eq_false_iff_ne] at h ⊢
  by_cases tab : c = '\t'
  · exact .inl tab
  · exact .inr ⟨by simpa [tab, line] using h.1, h.2⟩

private theorem hexValue?_digit : ∀ n, n < 16 →
    hexValue? (Nat.digitChar n) = some n ∧ hexValue? (Nat.digitChar n).toUpper = some n := by
  decide

/-- The number of a control character in hexadecimal digits is read as that character. -/
theorem hexChar?_control {c : Char} (h : c.toNat < 0x80) (rest : List Char) :
    hexChar? 4 ('0' :: '0' :: Nat.digitChar (c.toNat / 16) ::
      (Nat.digitChar (c.toNat % 16)).toUpper :: rest) = some c := by
  have zero : hexValue? '0' = some 0 := by decide
  have high := (hexValue?_digit (c.toNat / 16) (by omega)).1
  have low := (hexValue?_digit (c.toNat % 16) (by omega)).2
  have number : 16 * (c.toNat / 16) + c.toNat % 16 = c.toNat := Nat.div_add_mod _ _
  simp only [hexChar?, List.take_succ_cons, List.take_zero, List.mapM_cons, List.mapM_nil, zero,
    high, low, bind, Option.bind, pure, List.length_cons, List.length_nil, List.foldl_cons,
    List.foldl_nil, Nat.mul_zero, Nat.zero_add, number, Char.ofNat_toNat]
  rw [if_pos (by simp; omega)]

/-- How a character is written between double quotes: as it is, or as an escape. -/
inductive Escaped (long : Bool) (c : Char) : List Char → Prop where
  | plain : c ≠ '"' → c ≠ '\\' → isPlain c = true ∨ long = true ∧ c = '\n' → Escaped long c [c]
  | escape (first : Char) (body : List Char) :
    isSpace first = false ∧ first ≠ '\n' ∧ first ≠ '\r' →
    (∀ rest, escape? (first :: body ++ rest) = some (c, body.length + 1)) →
    Escaped long c ('\\' :: first :: body)

theorem escaped_escapeChar (long : Bool) (c : Char) : Escaped long c (escapeChar long c) := by
  have short (first : Char) (h : isSpace first = false ∧ first ≠ '\n' ∧ first ≠ '\r')
      (read : ∀ rest, escape? (first :: rest) = some (c, 1)) :
      Escaped long c ['\\', first] := .escape first [] h read
  unfold escapeChar
  split
  · rename_i h
    exact short 'b' (by decide) fun rest => by rw [beq_iff_eq.mp h]; rfl
  split
  · rename_i h
    exact short 't' (by decide) fun rest => by rw [beq_iff_eq.mp h]; rfl
  split
  · rename_i h
    obtain rfl : c = '\n' := beq_iff_eq.mp h
    cases long with
    | true => exact .plain (by decide) (by decide) (.inr ⟨rfl, rfl⟩)
    | false => exact short 'n' (by decide) fun rest => rfl
  split
  · rename_i h
    exact short 'f' (by decide) fun rest => by rw [beq_iff_eq.mp h]; rfl
  split
  · rename_i h
    exact short 'r' (by decide) fun rest => by rw [beq_iff_eq.mp h]; rfl
  split
  · rename_i h
    exact short '"' (by decide) fun rest => by rw [beq_iff_eq.mp h]; rfl
  split
  · rename_i h
    exact short '\\' (by decide) fun rest => by rw [beq_iff_eq.mp h]; rfl
  split
  · rename_i h
    have small : c.toNat < 0x80 := by
      simp only [needsEscape, Bool.or_eq_true, Bool.and_eq_true, decide_eq_true_eq, beq_iff_eq] at h
      omega
    refine .escape 'u' _ (by decide) fun rest => ?_
    simp only [List.cons_append, List.nil_append, escape?, hexChar?_control small, Option.map_some]
    rfl
  · rename_i _ _ line _ _ quote slash h
    simp only [beq_iff_eq] at line quote slash
    exact .plain quote slash (.inl (isPlain_of_not_needsEscape (by simpa using h) line))

/-! ## Strings between single marks -/

theorem literalBody_append {cs : List Char} (h : ∀ c ∈ cs, c ≠ '\'' ∧ isPlain c = true)
    (rest : List Char) : literalBody (cs ++ '\'' :: rest) = some (cs, rest) := by
  induction cs with
  | nil => rfl
  | cons c cs ih =>
    obtain ⟨⟨mark, plain⟩, others⟩ := List.forall_mem_cons.mp h
    simp only [List.cons_append, literalBody, ih others, consTo, Option.map_some, plain, mark,
      beq_iff_eq, if_true, if_false]

theorem basicBody_skip (body rest : List Char) :
    basicBody body.length (body ++ rest) = basicBody 0 rest := by
  induction body with
  | nil => rfl
  | cons c body ih => exact ih

theorem basicBody_escaped {c : Char} {written : List Char} (h : Escaped false c written)
    (rest : List Char) : basicBody 0 (written ++ rest) = consTo c (basicBody 0 rest) := by
  cases h with
  | plain quote slash plain =>
    have plain : isPlain c = true := by simpa using plain
    simp only [List.cons_append, List.nil_append, basicBody, beq_iff_eq, quote, slash, plain,
      if_true, if_false]
  | escape first body _ read =>
    have skip := basicBody_skip (first :: body) rest
    rw [List.cons_append, basicBody, if_neg (by decide), if_pos (by decide), read rest, ← skip]
    rfl

theorem basicBody_flatMap (cs rest : List Char) :
    basicBody 0 (cs.flatMap (escapeChar false) ++ '"' :: rest) = some (cs, rest) := by
  induction cs with
  | nil => rfl
  | cons c cs ih =>
    rw [List.flatMap_cons, List.append_assoc, basicBody_escaped (escaped_escapeChar false c), ih]
    rfl

/-! ## Strings between triple marks -/

theorem longBody_skip (quote : Char) (body rest : List Char) :
    longBody quote body.length (body ++ rest) = longBody quote 0 rest := by
  induction body with
  | nil => rfl
  | cons c body ih => exact ih

theorem quoteCount_cons_ne {quote c : Char} (h : c ≠ quote) (rest : List Char) :
    quoteCount quote (c :: rest) = 0 := by
  simp [quoteCount, h]

/-- Three marks that are no more end a string. -/
theorem longBody_end (quote : Char) {rest : List Char} (h : rest.head? ≠ some quote) :
    longBody quote 0 (quote :: quote :: quote :: rest) = some ([], rest) := by
  have count : quoteCount quote (quote :: quote :: quote :: rest) = 3 := by
    cases rest with
    | nil => simp [quoteCount]
    | cons c rest =>
      have other : c ≠ quote := by simpa using h
      simp [quoteCount, other]
  rw [longBody, count]
  rfl

theorem longBody_escaped {c : Char} {written : List Char} (h : Escaped true c written)
    (rest : List Char) : longBody '"' 0 (written ++ rest) = consTo c (longBody '"' 0 rest) := by
  cases h with
  | plain quote slash plain =>
    have kept : c = '\n' ∨ isPlain c = true := by simpa [or_comm] using plain
    have noReturn : c ≠ '\r' := by
      rintro rfl
      revert kept
      decide
    simp only [List.cons_append, List.nil_append, longBody, quoteCount_cons_ne quote]
    simp [slash, noReturn, kept]
  | escape first body start read =>
    have skip := longBody_skip '"' (first :: body) rest
    have goesOn : atLineEnd (skipSpace (first :: body ++ rest)) = false := by
      rw [skipSpace, List.cons_append, List.dropWhile_cons_of_neg (by simp [start.1])]
      unfold atLineEnd
      split
      · rename_i same
        exact absurd (List.cons.inj same).1 start.2.1
      · rename_i same
        exact absurd (List.cons.inj same).1 start.2.2
      · rfl
    rw [List.cons_append, longBody, quoteCount_cons_ne (by decide)]
    simp only [goesOn, read rest, ← skip]
    rfl

theorem longBody_flatMap (cs : List Char) {rest : List Char} (h : rest.head? ≠ some '"') :
    longBody '"' 0 (cs.flatMap (escapeChar true) ++ '"' :: '"' :: '"' :: rest) =
      some (cs, rest) := by
  induction cs with
  | nil => exact longBody_end '"' h
  | cons c cs ih =>
    rw [List.flatMap_cons, List.append_assoc, longBody_escaped (escaped_escapeChar true c), ih]
    rfl

theorem le_longestRun (run : Nat) (cs : List Char) :
    run + (cs.takeWhile (· == '\'')).length ≤ longestRun run cs := by
  induction cs generalizing run with
  | nil => simp [longestRun]
  | cons c cs ih =>
    by_cases mark : c = '\''
    · have := ih (run + 1)
      simp only [longestRun, mark, beq_self_eq_true, if_true, List.takeWhile_cons_of_pos,
        List.length_cons]
      omega
    · simp [longestRun, mark]

theorem longestRun_mono {a b : Nat} (h : a ≤ b) (cs : List Char) :
    longestRun a cs ≤ longestRun b cs := by
  induction cs generalizing a b with
  | nil => exact h
  | cons c cs ih =>
    simp only [longestRun]
    split
    · exact ih (by omega)
    · exact max_le_max h (Nat.le_refl _)

theorem longestRun_tail (c : Char) (cs : List Char) : longestRun 0 cs ≤ longestRun 0 (c :: cs) := by
  rw [longestRun]
  split
  · exact longestRun_mono (by omega) cs
  · exact le_max_right _ _

/-- Marks in a text that does not end in one are counted without those that come after it. -/
theorem quoteCount_le {cs : List Char} (nonempty : cs ≠ []) (last : cs.getLast? ≠ some '\'')
    (rest : List Char) : quoteCount '\'' (cs ++ rest) ≤ longestRun 0 cs := by
  have other : ∃ c ∈ cs, c ≠ '\'' := by
    refine ⟨cs.getLast nonempty, List.getLast_mem nonempty, fun same => last ?_⟩
    rw [List.getLast?_eq_some_getLast nonempty, same]
  have stops : (cs.takeWhile (· == '\'')).length ≠ cs.length := by
    intro all
    obtain ⟨c, among, different⟩ := other
    have whole := (List.takeWhile_prefix (p := (· == '\'')) (l := cs)).eq_of_length all
    have equal := List.mem_takeWhile_imp (whole ▸ among)
    exact different (beq_iff_eq.mp equal)
  have taken : (cs ++ rest).takeWhile (· == '\'') = cs.takeWhile (· == '\'') := by
    rw [List.takeWhile_append, if_neg stops]
  calc quoteCount '\'' (cs ++ rest)
      ≤ ((cs ++ rest).takeWhile (· == '\'')).length := by
        rw [quoteCount, ← List.take_takeWhile]
        exact List.length_take_le' _ _
    _ = (cs.takeWhile (· == '\'')).length := by rw [taken]
    _ ≤ longestRun 0 cs := by simpa using le_longestRun 0 cs

theorem longBody_literal {cs : List Char} (plain : ∀ c ∈ cs, needsEscape c = false)
    (runs : longestRun 0 cs < 3) (last : cs.getLast? ≠ some '\'') {rest : List Char}
    (h : rest.head? ≠ some '\'') :
    longBody '\'' 0 (cs ++ '\'' :: '\'' :: '\'' :: rest) = some (cs, rest) := by
  induction cs with
  | nil => exact longBody_end '\'' h
  | cons c cs ih =>
    obtain ⟨here, later⟩ := List.forall_mem_cons.mp plain
    have few := quoteCount_le (List.cons_ne_nil c cs) last ('\'' :: '\'' :: '\'' :: rest)
    have noReturn : c ≠ '\r' := by
      rintro rfl
      revert here
      decide
    have kept : c = '\n' ∨ isPlain c = true := by
      by_cases line : c = '\n'
      · exact .inl line
      · exact .inr (isPlain_of_not_needsEscape here line)
    have tailRuns := longestRun_tail c cs
    have tailLast : cs.getLast? ≠ some '\'' := by
      intro mark
      refine last ?_
      rw [List.getLast?_cons, mark]
      rfl
    rw [List.cons_append] at few
    rw [List.cons_append, longBody, if_neg (by omega), ih later (by omega) tailLast]
    simp [noReturn, kept, consTo]

/-! ## Strings -/

theorem readText_basic {cs : List Char} (h : ∀ rest, cs ≠ '"' :: '"' :: rest) :
    readText ('"' :: cs) = (basicBody 0 cs).map fun (t, after) => (String.ofList t, after) := by
  unfold readText
  split
  · rename_i same
    exact absurd (List.cons.inj same).2 (h _)
  · rename_i same
    cases same
  · rename_i same
    cases same
    rfl
  · rename_i same
    cases same
  · rename_i other _
    exact absurd rfl (other cs)

theorem readText_literal {cs : List Char} (h : ∀ rest, cs ≠ '\'' :: '\'' :: rest) :
    readText ('\'' :: cs) = (literalBody cs).map fun (t, after) => (String.ofList t, after) := by
  unfold readText
  split
  · rename_i same
    cases same
  · rename_i same
    exact absurd (List.cons.inj same).2 (h _)
  · rename_i same
    cases same
  · rename_i same
    cases same
    rfl
  · rename_i _ other
    exact absurd rfl (other cs)

theorem dropLineEnd_of_plain {cs : List Char} (nonempty : cs ≠ []) (h : ∀ c ∈ cs, isPlain c = true)
    (rest : List Char) : dropLineEnd (cs ++ rest) = cs ++ rest := by
  cases cs with
  | nil => exact absurd rfl nonempty
  | cons c cs =>
    have plain := h c List.mem_cons_self
    unfold dropLineEnd
    split
    · rename_i same
      rw [(List.cons.inj same).1] at plain
      cases plain
    · rename_i same
      rw [(List.cons.inj same).1] at plain
      cases plain
    · rfl

theorem Escaped.head_ne {long : Bool} {c : Char} {written : List Char}
    (h : Escaped long c written) (tail rest : List Char) : written ++ tail ≠ '"' :: rest := by
  intro same
  cases h with
  | plain quote _ _ => exact quote (List.cons.inj same).1
  | escape first body _ _ => cases same

/-- What is written between double quotes starts with no double quote. -/
theorem eq_nil_of_flatMap_escapeChar {long : Bool} {cs tail rest : List Char}
    (h : cs.flatMap (escapeChar long) ++ tail = '"' :: rest) : cs = [] := by
  cases cs with
  | nil => rfl
  | cons c cs =>
    rw [List.flatMap_cons, List.append_assoc] at h
    exact absurd h ((escaped_escapeChar long c).head_ne _ rest)

/-- The characters of a string are the string again. -/
private theorem map_ofList_toList (s : String) (rest : List Char) :
    (some (s.toList, rest)).map (fun (t, after) => (String.ofList t, after)) = some (s, rest) := by
  simp only [Option.map_some, String.ofList_toList]

/-- A string that is better written as it is, between single quotes, is read from there. -/
theorem readText_unescaped {s : String} (prefers : prefersLiteral s.toList = true)
    {rest : List Char} (single : rest.head? ≠ some '\'') :
    readText (writtenText s ++ rest) = some (s, rest) := by
  unfold writtenText
  simp only [prefers, if_true]
  simp only [prefersLiteral, Bool.and_eq_true, Bool.not_eq_true', List.any_eq_false,
    Bool.not_eq_true, decide_eq_true_eq, bne_iff_ne] at prefers
  obtain ⟨⟨⟨marked, plain⟩, runs⟩, last⟩ := prefers
  have long := longBody_literal plain runs last single
  have nonempty : s.toList ≠ [] := by
    intro nothing
    rw [nothing] at marked
    cases marked
  split
  · rw [← map_ofList_toList, ← long]
    simp only [List.cons_append, List.nil_append, List.append_assoc]
    rfl
  · rename_i oneLine
    have onLine : ∀ c ∈ s.toList, isPlain c = true := by
      intro c hc
      refine isPlain_of_not_needsEscape (plain c hc) ?_
      rintro rfl
      exact oneLine (List.contains_iff_mem.mpr hc)
    split
    · rw [← map_ofList_toList, ← long, ← dropLineEnd_of_plain nonempty onLine]
      simp only [List.cons_append, List.nil_append, List.append_assoc]
      rfl
    · rename_i unquoted
      have body : ∀ c ∈ s.toList, c ≠ '\'' ∧ isPlain c = true := by
        intro c hc
        refine ⟨?_, onLine c hc⟩
        rintro rfl
        exact unquoted (List.contains_iff_mem.mpr hc)
      rw [List.cons_append, List.append_assoc, List.singleton_append, readText_literal,
        literalBody_append body, map_ofList_toList]
      intro later same
      obtain ⟨c, others, first⟩ := List.exists_cons_of_ne_nil nonempty
      rw [first, List.cons_append] at same
      exact (body c (first ▸ List.mem_cons_self)).1 (List.cons.inj same).1

/-- Any other string is read from between double quotes. -/
theorem readText_escaped {s : String} (prefers : prefersLiteral s.toList = false)
    {rest : List Char} (double : rest.head? ≠ some '"') :
    readText (writtenText s ++ rest) = some (s, rest) := by
  unfold writtenText
  simp only [prefers, Bool.false_eq_true, if_false]
  split
  · rw [← map_ofList_toList, ← longBody_flatMap s.toList double]
    simp only [List.cons_append, List.nil_append, List.append_assoc]
    rfl
  · rw [List.cons_append, List.append_assoc, List.singleton_append, readText_basic,
      basicBody_flatMap, map_ofList_toList]
    intro later same
    have empty := eq_nil_of_flatMap_escapeChar same
    rw [empty] at same
    refine double ?_
    rw [(List.cons.inj same).2]
    rfl

/-- A string is read as what it was written for. -/
theorem readText_written (s : String) {rest : List Char} (double : rest.head? ≠ some '"')
    (single : rest.head? ≠ some '\'') : readText (writtenText s ++ rest) = some (s, rest) := by
  cases prefers : prefersLiteral s.toList with
  | true => exact readText_unescaped prefers single
  | false => exact readText_escaped prefers double

theorem head_writtenText (s : String) :
    ∃ c cs, writtenText s = c :: cs ∧ (c = '"' ∨ c = '\'') := by
  unfold writtenText
  simp only
  split
  · split
    · exact ⟨'\'', _, rfl, .inr rfl⟩
    · split
      · exact ⟨'\'', _, rfl, .inr rfl⟩
      · exact ⟨'\'', _, rfl, .inr rfl⟩
  · split
    · exact ⟨'"', _, rfl, .inl rfl⟩
    · exact ⟨'"', _, rfl, .inl rfl⟩

/-! ## Integers -/

/-- A count of digits at the start of a line of digits leaves digits or the end of the line. -/
theorem readField_digits {digits : List Char} (h : ∀ c ∈ digits, c.isDigit = true)
    {count least most n : Nat} {rest after : List Char}
    (read : readField count least most (digits ++ '\n' :: rest) = some (n, after)) :
    ∃ c later, after = c :: later ∧ (c.isDigit = true ∨ c = '\n') := by
  unfold readField at read
  simp only at read
  split at read
  · rename_i fits
    cases read
    simp only [Bool.and_eq_true, beq_iff_eq] at fits
    have allDigits := fits.1.1.2
    have within : count ≤ digits.length := by
      by_contra beyond
      have line : '\n' ∈ (digits ++ '\n' :: rest).take count := by
        rw [List.take_append]
        refine List.mem_append_right _ ?_
        obtain ⟨k, hk⟩ : ∃ k, count - digits.length = k + 1 := ⟨count - digits.length - 1, by omega⟩
        rw [hk]
        exact List.mem_cons_self
      have digit := List.all_eq_true.mp allDigits _ line
      cases digit
    rw [List.drop_append_of_le_length within]
    cases left : digits.drop count with
    | nil => exact ⟨'\n', rest, rfl, .inr rfl⟩
    | cons c later =>
      refine ⟨c, later ++ '\n' :: rest, rfl, .inl (h c ?_)⟩
      exact List.mem_of_mem_drop (left ▸ List.mem_cons_self)
  · cases read

theorem readMark_eq_none {mark : Char} (h : mark.isDigit = false ∧ mark ≠ '\n') {cs : List Char}
    (start : ∃ c later, cs = c :: later ∧ (c.isDigit = true ∨ c = '\n')) :
    readMark mark cs = none := by
  obtain ⟨c, later, rfl, kind⟩ := start
  have other : c ≠ mark := by
    rintro rfl
    rcases kind with digit | line
    · rw [h.1] at digit
      cases digit
    · exact h.2 line
  simp [readMark, other]

/-- A line of digits is no date. -/
theorem readDate_digits {digits : List Char} (h : ∀ c ∈ digits, c.isDigit = true)
    (rest : List Char) : readDate (digits ++ '\n' :: rest) = none := by
  have day : readDay (digits ++ '\n' :: rest) = none := by
    unfold readDay
    cases year : readField 4 0 9999 (digits ++ '\n' :: rest) with
    | none => rfl
    | some read =>
      have mark := readMark_eq_none (show Char.isDigit '-' = false ∧ '-' ≠ '\n' by decide)
        (readField_digits h year)
      simp only [bind, Option.bind, mark]
  have time : readTime (digits ++ '\n' :: rest) = none := by
    unfold readTime
    cases hour : readField 2 0 23 (digits ++ '\n' :: rest) with
    | none => rfl
    | some read =>
      have mark := readMark_eq_none (show Char.isDigit ':' = false ∧ ':' ≠ '\n' by decide)
        (readField_digits h hour)
      simp only [bind, Option.bind, mark]
  rw [readDate, day, time]
  rfl

theorem spanDigits_digits {digits : List Char} (h : ∀ c ∈ digits, c.isDigit = true) (after : Bool)
    (rest : List Char) :
    spanDigits Char.isDigit after (digits ++ '\n' :: rest) = (digits, '\n' :: rest) := by
  induction digits generalizing after with
  | nil =>
    have line : Char.isDigit '\n' = false := by decide
    simp [spanDigits, line]
  | cons c digits ih =>
    obtain ⟨first, others⟩ := List.forall_mem_cons.mp h
    rw [List.cons_append, spanDigits, if_pos first, ih others]

theorem readDecimal_toDigits (n : Nat) (rest : List Char) :
    readDecimal (Nat.toDigits 10 n ++ '\n' :: rest) =
      some (false, Nat.toDigits 10 n, '\n' :: rest) := by
  have digits : ∀ c ∈ Nat.toDigits 10 n, c.isDigit = true := fun c => Text.isDigit_of_mem_toDigits
  by_cases zero : n = 0
  · subst zero
    rfl
  have lead := Text.head_toDigits n (by omega)
  obtain ⟨c, others, written⟩ := List.exists_cons_of_ne_nil (Nat.toDigits_ne_nil (b := 10) (n := n))
  rw [written] at digits lead ⊢
  have first := digits c List.mem_cons_self
  have noMinus : c ≠ '-' := by rintro rfl; cases first
  have noPlus : c ≠ '+' := by rintro rfl; cases first
  have noZero : c ≠ '0' := by simpa using lead
  have read := spanDigits_digits digits false rest
  rw [List.cons_append] at read ⊢
  simp [readDecimal, readDigits, noMinus, noPlus, noZero, read]

theorem ofDigits_toDigits (n : Nat) : ofDigits 10 (Nat.toDigits 10 n) = n := by
  have library := Nat.ofDigitChars_ten_toDigits (n := n)
  rw [Nat.ofDigitChars_eq_foldl] at library
  refine Eq.trans (List.foldl_ext _ _ _ fun sum c among => ?_) library
  rw [hexValue?, if_pos (Text.isDigit_of_mem_toDigits among), Option.getD_some]

theorem readInteger_toDigits {n : Nat} (h : (n : Int) < integerBound) (rest : List Char) :
    readInteger (Nat.toDigits 10 n ++ '\n' :: rest) = some (.integer n, '\n' :: rest) := by
  have fits : fitting (n : Int) = some (.integer n) := by
    have low : -integerBound ≤ (n : Int) :=
      Int.le_trans (by norm_num [integerBound]) (Int.natCast_nonneg n)
    rw [fitting, if_pos (by simp [low, h])]
  have decimal := readDecimal_toDigits n rest
  have value := ofDigits_toDigits n
  have noBase : ∀ d later, Nat.toDigits 10 n ++ '\n' :: rest = '0' :: d :: later → d = '\n' := by
    intro d later same
    by_cases zero : n = 0
    · subst zero
      exact (List.cons.inj (List.cons.inj same).2).1.symm
    · have lead := Text.head_toDigits n (by omega)
      rw [← List.head?_append_of_ne_nil _ Nat.toDigits_ne_nil, same] at lead
      exact absurd rfl lead
  unfold readInteger
  simp only
  split
  · rename_i same
    exact absurd (noBase _ _ same) (by decide)
  · rename_i same
    exact absurd (noBase _ _ same) (by decide)
  · rename_i same
    exact absurd (noBase _ _ same) (by decide)
  · rw [decimal, Option.bind_eq_bind, Option.bind_some]
    dsimp only
    rw [if_neg Bool.false_ne_true, value, fits]
    rfl

/-- An integer is read as what it was written for. -/
theorem readScalar_toDigits {n : Nat} (h : (n : Int) < integerBound) (rest : List Char) :
    readScalar (Nat.toDigits 10 n ++ '\n' :: rest) = some (.integer n, '\n' :: rest) := by
  have digits : ∀ c ∈ Nat.toDigits 10 n, c.isDigit = true := fun c => Text.isDigit_of_mem_toDigits
  have date := readDate_digits digits rest
  have float : readFloat (Nat.toDigits 10 n ++ '\n' :: rest) = none := by
    simp only [readFloat, readDecimal_toDigits n rest, bind, Option.bind]
    rfl
  have integer := readInteger_toDigits h rest
  obtain ⟨c, others, written⟩ := List.exists_cons_of_ne_nil (Nat.toDigits_ne_nil (b := 10) (n := n))
  have first := digits c (written ▸ List.mem_cons_self)
  rw [written, List.cons_append] at date float integer ⊢
  have special : readSpecial (c :: (others ++ '\n' :: rest)) = none := by
    unfold readSpecial
    have noMinus : c ≠ '-' := by rintro rfl; cases first
    have noPlus : c ≠ '+' := by rintro rfl; cases first
    simp only [List.head?_cons, Option.some_beq_some, beq_iff_eq, noMinus, noPlus, Bool.or_eq_true,
      or_self, if_false]
    split
    · rename_i same
      rw [(List.cons.inj same).1] at first
      cases first
    · rename_i same
      rw [(List.cons.inj same).1] at first
      cases first
    · rfl
  unfold readScalar
  split
  · rename_i same
    rw [(List.cons.inj same).1] at first
    cases first
  · rename_i same
    rw [(List.cons.inj same).1] at first
    cases first
  · rename_i same
    rw [(List.cons.inj same).1] at first
    cases first
  · rename_i same
    rw [(List.cons.inj same).1] at first
    cases first
  · rw [date, float, special, integer]
    rfl

end ApiReference.Toml
