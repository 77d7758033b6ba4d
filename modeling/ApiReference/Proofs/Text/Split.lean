import Mathlib
import ApiReference.Text.Split

/-!
Texts cut at characters, texts without a start or an end that they have, and where a part stands in
a text that is put together.
-/

namespace ApiReference.Text

variable {p : Char → Bool}

theorem split_ne_nil (cs : List Char) : split p cs ≠ [] := by
  cases cs with
  | nil => simp [split]
  | cons c cs =>
    rw [split, List.foldr_cons]
    split
    · simp
    · split <;> simp

private theorem split_cons_cut {c : Char} (cut : p c = true) (cs : List Char) :
    split p (c :: cs) = [] :: split p cs := by
  rw [split, List.foldr_cons, if_pos cut]
  rfl

private theorem split_cons_kept {c : Char} (kept : p c = false) {cs piece : List Char}
    {rest : List (List Char)} (h : split p cs = piece :: rest) :
    split p (c :: cs) = (c :: piece) :: rest := by
  rw [split] at h ⊢
  rw [List.foldr_cons, if_neg (by simp [kept]), h]

/-- A character at which a text is cut parts the pieces before it from those after it. -/
theorem split_append_cons {c : Char} (cut : p c = true) (cs ds : List Char) :
    split p (cs ++ c :: ds) = split p cs ++ split p ds := by
  induction cs with
  | nil => exact split_cons_cut cut ds
  | cons d cs ih =>
    rw [List.cons_append]
    cases here : p d with
    | true => rw [split_cons_cut here, split_cons_cut here, ih, List.cons_append]
    | false =>
      obtain ⟨piece, rest, pieces⟩ := List.exists_cons_of_ne_nil (split_ne_nil (p := p) cs)
      rw [pieces, List.cons_append] at ih
      rw [split_cons_kept here ih, split_cons_kept here pieces, List.cons_append]

/-- A text without such a character is one piece. -/
theorem split_of_forall {cs : List Char} (whole : ∀ c ∈ cs, p c = false) : split p cs = [cs] := by
  induction cs with
  | nil => rfl
  | cons c cs ih =>
    exact split_cons_kept (whole c List.mem_cons_self)
      (ih fun d hd => whole d (List.mem_cons_of_mem _ hd))

/-- Characters at which no text is cut go to the last piece. -/
theorem split_append_of_forall {ds : List Char} (whole : ∀ d ∈ ds, p d = false) (cs : List Char) :
    ∃ pieces last, split p cs = pieces ++ [last] ∧ split p (cs ++ ds) = pieces ++ [last ++ ds] := by
  induction cs with
  | nil => exact ⟨[], [], rfl, split_of_forall whole⟩
  | cons c cs ih =>
    obtain ⟨pieces, last, before, after⟩ := ih
    rw [List.cons_append]
    cases here : p c with
    | true =>
      refine ⟨[] :: pieces, last, ?_, ?_⟩
      · rw [split_cons_cut here, before, List.cons_append]
      · rw [split_cons_cut here, after, List.cons_append]
    | false =>
      cases pieces with
      | nil =>
        exact ⟨[], c :: last, split_cons_kept here before, split_cons_kept here after⟩
      | cons piece pieces =>
        exact ⟨(c :: piece) :: pieces, last, split_cons_kept here before,
          split_cons_kept here after⟩

/-- No character at which a text is cut stands in a piece. -/
theorem of_mem_split {cs piece : List Char} (h : piece ∈ split p cs) :
    ∀ c ∈ piece, p c = false := by
  induction cs generalizing piece with
  | nil =>
    obtain rfl := List.mem_singleton.mp h
    simp
  | cons d cs ih =>
    cases here : p d with
    | true =>
      rw [split_cons_cut here] at h
      rcases List.mem_cons.mp h with rfl | later
      · simp
      · exact ih later
    | false =>
      obtain ⟨first, rest, pieces⟩ := List.exists_cons_of_ne_nil (split_ne_nil (p := p) cs)
      rw [split_cons_kept here pieces] at h
      rw [pieces] at ih
      rcases List.mem_cons.mp h with rfl | later
      · intro c hc
        rcases List.mem_cons.mp hc with rfl | among
        · exact here
        · exact ih List.mem_cons_self c among
      · exact ih (List.mem_cons_of_mem _ later)

/-- No word holds white space. -/
theorem isBlank_of_mem_words {cs word : List Char} (h : word ∈ words cs) :
    ∀ c ∈ word, isBlank c = false :=
  of_mem_split (List.mem_filter.mp h).1

/-- White space at the end of a text makes no word. -/
theorem words_append_blank {c : Char} (blank : isBlank c = true) (cs : List Char) :
    words (cs ++ [c]) = words cs := by
  rw [words, split_append_cons blank, words, List.filter_append]
  simp [split]

/-! ## Starts and ends -/

theorem dropSuffix?_append (cs suffix : List Char) :
    dropSuffix? suffix (cs ++ suffix) = some cs := by
  unfold dropSuffix?
  have ends : suffix.isSuffixOf (cs ++ suffix) = true := by
    rw [List.isSuffixOf_iff_suffix]
    exact List.suffix_append cs suffix
  rw [if_pos ends]
  simp

theorem dropPrefix?_append (cs start : List Char) :
    dropPrefix? start (start ++ cs) = some cs := by
  unfold dropPrefix?
  have starts : start.isPrefixOf (start ++ cs) = true := by
    rw [List.isPrefixOf_iff_prefix]
    exact List.prefix_append start cs
  rw [if_pos starts]
  simp

theorem eq_append_of_dropSuffix? {suffix cs rest : List Char}
    (h : dropSuffix? suffix cs = some rest) : cs = rest ++ suffix := by
  unfold dropSuffix? at h
  split at h
  · rename_i ends
    obtain ⟨start, rfl⟩ := List.isSuffixOf_iff_suffix.mp ends
    cases h
    simp
  · cases h

theorem eq_append_of_dropPrefix? {start cs rest : List Char}
    (h : dropPrefix? start cs = some rest) : cs = start ++ rest := by
  unfold dropPrefix? at h
  split at h
  · rename_i starts
    obtain ⟨rest', rfl⟩ := List.isPrefixOf_iff_prefix.mp starts
    cases h
    simp
  · cases h

/-! ## Parts of texts put together -/

/-- A text without `c` that ends behind a `c` ends what comes after that. -/
theorem suffix_of_append_cons {part cs ds : List Char} {c : Char} (h : part <:+ cs ++ c :: ds)
    (other : c ∉ part) : part <:+ ds := by
  rcases List.suffix_or_suffix_of_suffix h (List.suffix_append cs (c :: ds)) with short | long
  · rcases List.suffix_cons_iff.mp short with rfl | within
    · exact absurd List.mem_cons_self other
    · exact within
  · exact absurd (long.subset List.mem_cons_self) other

theorem suffix_of_cons {c d : Char} {part cs : List Char} (h : c :: part <:+ d :: cs) :
    part <:+ cs := by
  rcases List.suffix_cons_iff.mp h with whole | within
  · rw [(List.cons.inj whole).2]
  · exact (List.suffix_cons c part).trans within

theorem eq_nil_of_head {c : Char} {part word cs : List Char} (other : c ∉ word)
    (ends : part <:+ word) (starts : part <+: c :: cs) : part = [] := by
  cases part with
  | nil => rfl
  | cons d part =>
    rw [(List.cons_prefix_cons.mp starts).1] at ends
    exact absurd (ends.subset List.mem_cons_self) other

/-- A text that starts a longer one starts its first part, if none of its ends starts the rest. -/
theorem prefix_of_apart {word cs ds : List Char}
    (apart : ∀ part, part <:+ word → part <+: ds → part = []) (h : word <+: cs ++ ds) :
    word <+: cs := by
  rcases List.prefix_or_prefix_of_prefix h (List.prefix_append cs ds) with inside | ⟨part, rfl⟩
  · exact inside
  · rw [List.prefix_append_right_inj] at h
    rw [apart part (List.suffix_append cs part) h, List.append_nil]

/-- A text without `c` stands before a `c` or behind it. -/
theorem infix_append_cons {c : Char} {part cs ds : List Char} (other : c ∉ part)
    (h : part <:+: cs ++ c :: ds) : part <:+: cs ∨ part <:+: ds := by
  induction cs with
  | nil =>
    rcases List.infix_cons_iff.mp h with here | later
    · rw [eq_nil_of_head other List.suffix_rfl here]
      exact .inl List.nil_infix
    · exact .inr later
  | cons a cs ih =>
    rcases List.infix_cons_iff.mp h with here | later
    · have starts : part <+: a :: cs ++ c :: ds := here
      exact .inl (prefix_of_apart (fun _ => eq_nil_of_head other) starts).isInfix
    · exact (ih later).imp List.infix_cons id

/-- A text that starts with `c` stands behind one without `c`. -/
theorem infix_of_append {c : Char} {part cs ds : List Char} (other : c ∉ cs)
    (h : c :: part <:+: cs ++ ds) : c :: part <:+: ds := by
  induction cs with
  | nil => exact h
  | cons d cs ih =>
    rw [List.mem_cons, not_or] at other
    rcases List.infix_cons_iff.mp h with here | h
    · exact absurd (List.cons_prefix_cons.mp here).1 other.1
    · exact ih other.2 h

end ApiReference.Text
