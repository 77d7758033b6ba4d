import ApiReference.Proofs.Text.Split
import ApiReference.Proofs.Text.Trim

/-!
The words of a text that is cut or put together. White space of any kind between two texts keeps
their words apart, so a text has the words of its lines (`flatMap_words_lines`), and words with
spaces between them come back (`words_intercalate`).
-/

namespace ApiReference.Text

variable {p : Char → Bool}

theorem split_eq_splitOnP (cs : List Char) : split p cs = cs.splitOnP p := by
  induction cs with
  | nil => rfl
  | cons c cs ih =>
    rw [List.splitOnP_cons_eq_if_modifyHead, ← ih, split, List.foldr_cons, ← split]
    split
    · rfl
    · obtain ⟨piece, rest, pieces⟩ := List.exists_cons_of_ne_nil (split_ne_nil (p := p) cs)
      rw [pieces]
      rfl

/-- The pieces of a text hold all characters at which it is not cut. -/
theorem flatten_split (cs : List Char) : (split p cs).flatten = cs.filter fun c => !p c := by
  induction cs with
  | nil => rfl
  | cons c cs ih =>
    rw [split_eq_splitOnP, List.splitOnP_cons_eq_if_modifyHead, ← split_eq_splitOnP]
    obtain ⟨piece, rest, pieces⟩ := List.exists_cons_of_ne_nil (split_ne_nil (p := p) cs)
    rw [pieces] at ih ⊢
    cases here : p c with
    | true => simpa [here] using ih
    | false => simpa [here] using ih

/-! ## Words -/

theorem flatten_words (cs : List Char) : (words cs).flatten = cs.filter fun c => !isBlank c := by
  rw [words, ← flatten_split]
  induction split isBlank cs with
  | nil => rfl
  | cons piece pieces ih => cases piece <;> simp [ih]

theorem ne_nil_of_mem_words {cs word : List Char} (h : word ∈ words cs) : word ≠ [] := by
  have kept := (List.mem_filter.mp h).2
  rintro rfl
  cases kept

theorem words_eq_nil_iff {cs : List Char} : words cs = [] ↔ ∀ c ∈ cs, isBlank c = true := by
  have letters := flatten_words cs
  constructor
  · intro none
    rw [none, List.flatten_nil, eq_comm, List.filter_eq_nil_iff] at letters
    simpa using letters
  · intro blank
    have none : (words cs).flatten = [] := by
      rw [letters, List.filter_eq_nil_iff]
      simpa using blank
    rw [List.flatten_eq_nil_iff] at none
    rw [List.eq_nil_iff_forall_not_mem]
    intro word h
    exact ne_nil_of_mem_words h (none word h)

theorem words_append_cons {c : Char} (blank : isBlank c = true) (cs ds : List Char) :
    words (cs ++ c :: ds) = words cs ++ words ds := by
  rw [words, split_append_cons blank, List.filter_append, words, words]

theorem words_of_forall {cs : List Char} (nonempty : cs ≠ [])
    (visible : ∀ c ∈ cs, isBlank c = false) : words cs = [cs] := by
  rw [words, split_of_forall visible]
  simpa using nonempty

theorem words_intercalate {c : Char} (blank : isBlank c = true) (parts : List (List Char)) :
    words ([c].intercalate parts) = parts.flatMap words := by
  induction parts with
  | nil => rfl
  | cons part parts ih =>
    cases parts with
    | nil => simp
    | cons next rest =>
      rw [List.intercalate_cons_cons, List.append_assoc, List.singleton_append,
        words_append_cons blank, ih]
      rfl

/-- White space around a text makes no word. -/
theorem words_between {pre post : List Char} (before : ∀ c ∈ pre, isBlank c = true)
    (after : ∀ c ∈ post, isBlank c = true) (cs : List Char) : words (pre ++ cs ++ post) = words cs := by
  have left (ds : List Char) : words (pre ++ ds) = words ds := by
    induction pre with
    | nil => rfl
    | cons c pre ih =>
      obtain ⟨first, later⟩ := List.forall_mem_cons.mp before
      exact (words_append_cons first [] _).trans (ih later)
  have right : words (cs ++ post) = words cs := by
    induction post generalizing cs with
    | nil => rw [List.append_nil]
    | cons c post ih =>
      obtain ⟨first, later⟩ := List.forall_mem_cons.mp after
      rw [words_append_cons first, words_eq_nil_iff.mpr later, List.append_nil]
  rw [List.append_assoc, left, right]

theorem words_trim (cs : List Char) : words (trim cs) = words cs := by
  obtain ⟨pre, post, whole, before, after⟩ := exists_trim cs
  calc words (trim cs) = words (pre ++ trim cs ++ post) := (words_between before after _).symm
    _ = words cs := by rw [← whole]

/-! ## Lines -/

/-- A line without the carriage return that may stand before its line feed. -/
def withoutReturn (line : List Char) : List Char :=
  if line.getLast? == some '\r' then line.dropLast else line

theorem words_withoutReturn (line : List Char) : words (withoutReturn line) = words line := by
  unfold withoutReturn
  split
  · rename_i ends
    rw [beq_iff_eq, List.getLast?_eq_some_iff] at ends
    obtain ⟨before, rfl⟩ := ends
    rw [List.dropLast_concat, words_append_blank rfl]
  · rfl

theorem withoutReturn_of_not_mem {line : List Char} (free : '\r' ∉ line) :
    withoutReturn line = line := by
  unfold withoutReturn
  rw [if_neg]
  intro ends
  rw [beq_iff_eq] at ends
  exact free (List.mem_of_getLast? ends)

/-- The lines of a text are its pieces between line feeds, and what follows the last one if that is
not empty. -/
theorem lines_of_split {cs last : List Char} {pieces : List (List Char)}
    (h : split (· == '\n') cs = pieces ++ [last]) :
    lines cs = pieces.map withoutReturn ++ [last].filter fun line => !line.isEmpty := by
  unfold lines
  simp only [h, List.dropLast_concat, List.getLast?_concat]
  cases last with
  | nil =>
    rw [List.filter_cons_of_neg (by simp), List.filter_nil, List.append_nil]
    rfl
  | cons c cs =>
    rw [List.filter_cons_of_pos (by simp), List.filter_nil]
    rfl

/-- A text has the words of its lines. -/
theorem flatMap_words_lines (cs : List Char) : (lines cs).flatMap words = words cs := by
  have whole : ['\n'].intercalate (split (· == '\n') cs) = cs := by
    rw [split_eq_splitOnP]
    exact List.intercalate_splitOn '\n'
  obtain none | ⟨pieces, last, ends⟩ := List.eq_nil_or_concat (split (· == '\n') cs)
  · exact absurd none (split_ne_nil cs)
  · rw [List.concat_eq_append] at ends
    have filtered : ([last].filter fun line => !line.isEmpty).flatMap words = words last := by
      cases last <;> simp [words, split]
    calc (lines cs).flatMap words
        = (pieces.map withoutReturn).flatMap words ++ words last := by
          rw [lines_of_split ends, List.flatMap_append, filtered]
      _ = (pieces ++ [last]).flatMap words := by
          simp [List.flatMap_map, words_withoutReturn]
      _ = words cs := by
          rw [← words_intercalate (c := '\n') rfl, ← ends, whole]

end ApiReference.Text
