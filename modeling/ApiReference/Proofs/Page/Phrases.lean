import Mathlib
import ApiReference.Page.Returns
import ApiReference.Proofs.Text.Split

/-!
What phrases match. Whether one matches depends on the text alone, not on where it stands or on what
was found before (`matches_iff`). A phrase matches what its first pieces match, and then what the
others do (`matchesIn_of_append`); there is one law for each kind of piece, which says where it ends
and what it adds to what was found.
-/

namespace ApiReference.Page

/-! ## Whether a phrase matches -/

/-- Whether a phrase matches does not depend on where a text stands and on what was found. -/
theorem isSome_matchAt (ps : List Piece) (position : Nat) (found : Found) (cs : List Char)
    (position' : Nat) (found' : Found) :
    (matchAt ps position found cs).isSome = (matchAt ps position' found' cs).isSome := by
  fun_induction matchAt ps position found cs generalizing position' found' with
  | case1 | case4 | case9 | case12 => simp [matchAt]
  | case3 _ _ _ _ _ _ unfit | case8 _ _ _ _ _ _ unfit | case11 _ _ _ _ _ _ unfit =>
    simp [matchAt, unfit]
  | case2 _ _ _ _ _ _ fits ih =>
    simp only [matchAt, fits, if_true]
    exact ih ..
  | case5 _ _ p _ c _ ihRead ihSkip =>
    simp only [matchAt, Option.orElse_eq_or, Option.isSome_or]
    rw [ihSkip position' found']
    by_cases fits : p c
    · simp only [fits, if_true]
      rw [ihRead]
    · simp [fits]
  | case7 _ _ _ _ _ _ fits ihStop ihMore | case10 _ _ _ _ _ _ fits ihMore ihStop =>
    simp only [matchAt, fits, if_true, Option.orElse_eq_or, Option.isSome_or]
    rw [ihStop (position' + 1) found', ihMore (position' + 1) found']
  | case14 _ _ _ _ _ ihWords ihRest =>
    simp only [matchAt, Option.orElse_eq_or, Option.isSome_or]
    rw [ihWords position' { found' with array := true }, ihRest position' found']
  | case6 _ _ _ _ ih | case13 _ _ _ _ _ ih | case15 _ _ _ _ _ ih | case16 _ _ _ _ ih =>
    simp only [matchAt]
    exact ih ..

/-- Whether pieces match at the start of a text. -/
def Matches (ps : List Piece) (cs : List Char) : Prop := (matchAt ps 0 {} cs).isSome

theorem matches_iff {ps : List Piece} {position : Nat} {found : Found} {cs : List Char} :
    Matches ps cs ↔ (matchAt ps position found cs).isSome := by
  rw [Matches, isSome_matchAt ps position found cs 0 {}]

theorem Matches.of_some {ps : List Piece} {position : Nat} {found result : Found}
    {cs : List Char} (h : matchAt ps position found cs = some result) : Matches ps cs := by
  rw [matches_iff, h, Option.isSome_some]

theorem matchAt_eq_none_iff {ps : List Piece} {position : Nat} {found : Found} {cs : List Char} :
    matchAt ps position found cs = none ↔ ¬Matches ps cs := by
  rw [matches_iff, Option.not_isSome_iff_eq_none]

/-- Whether a piece only reads characters. -/
def Piece.reads : Piece → Bool
  | .one _ | .atMostOne _ | .fewest _ | .most _ => true
  | .announce _ | .perhapsAnnounce _ | .word _ | .wordEnd => false

/-- Pieces match with a result somewhere in a text that stands at a position. -/
def MatchesIn (ps : List Piece) (position : Nat) (found : Found) (cs : List Char)
    (result : Found) : Prop :=
  ∃ read later, cs = read ++ later ∧ matchAt ps (position + read.length) found later = some result

theorem MatchesIn.cons {ps : List Piece} {position : Nat} {found result : Found} {cs : List Char}
    (h : MatchesIn ps (position + 1) found cs result) (c : Char) :
    MatchesIn ps position found (c :: cs) result := by
  obtain ⟨read, later, rfl, rest⟩ := h
  refine ⟨c :: read, later, rfl, ?_⟩
  rw [List.length_cons, Nat.add_comm read.length, ← Nat.add_assoc]
  exact rest

/-- What a phrase matches starts with what its first pieces match. -/
theorem matchesIn_of_append {ps qs : List Piece} {position : Nat} {found result : Found}
    {cs : List Char} (h : matchAt (ps ++ qs) position found cs = some result) :
    ∃ found', MatchesIn qs position found' cs result ∧
      (ps.all Piece.reads = true → found' = found) := by
  fun_induction matchAt ps position found cs with
  | case1 => exact ⟨_, ⟨[], _, rfl, h⟩, fun _ => rfl⟩
  | case4 | case9 | case12 => simp [matchAt] at h
  | case3 _ _ _ _ _ _ unfit | case8 _ _ _ _ _ _ unfit | case11 _ _ _ _ _ _ unfit =>
    simp [matchAt, unfit] at h
  | case2 _ _ _ _ c _ fits ih =>
    simp only [List.cons_append, matchAt, fits, if_true] at h
    obtain ⟨found', rest, same⟩ := ih h
    exact ⟨found', rest.cons c, same⟩
  | case5 _ _ _ _ c _ ihRead ihSkip =>
    simp only [List.cons_append, matchAt, Option.orElse_eq_or, Option.or_eq_some_iff] at h
    rcases h with h | ⟨_, h⟩
    · split at h
      · obtain ⟨found', rest, same⟩ := ihRead h
        exact ⟨found', rest.cons c, same⟩
      · cases h
    · exact ihSkip h
  | case6 _ _ _ _ ih =>
    simp only [List.cons_append, matchAt] at h
    exact ih h
  | case7 _ _ _ _ c _ fits ihFirst ihSecond | case10 _ _ _ _ c _ fits ihFirst ihSecond =>
    simp only [List.cons_append, matchAt, fits, if_true, Option.orElse_eq_or,
      Option.or_eq_some_iff] at h
    rcases h with h | ⟨_, h⟩
    · obtain ⟨found', rest, same⟩ := ihFirst h
      exact ⟨found', rest.cons c, same⟩
    · obtain ⟨found', rest, same⟩ := ihSecond h
      exact ⟨found', rest.cons c, same⟩
  -- The other pieces add to what was found, so nothing is claimed about that.
  | case13 _ _ _ words _ ih =>
    simp only [List.cons_append, matchAt, ← List.append_assoc] at h
    obtain ⟨found', rest, _⟩ := ih h
    exact ⟨found', rest, fun reads => by cases reads⟩
  | case14 _ _ _ words _ ihWords ihRest =>
    simp only [List.cons_append, matchAt, ← List.append_assoc, Option.orElse_eq_or,
      Option.or_eq_some_iff] at h
    rcases h with h | ⟨_, h⟩
    · obtain ⟨found', rest, _⟩ := ihWords h
      exact ⟨found', rest, fun reads => by cases reads⟩
    · obtain ⟨found', rest, _⟩ := ihRest h
      exact ⟨found', rest, fun reads => by cases reads⟩
  | case15 _ _ _ letters _ ih =>
    simp only [List.cons_append, matchAt] at h
    rw [← List.cons_append, ← List.append_assoc] at h
    obtain ⟨found', rest, _⟩ := ih h
    exact ⟨found', rest, fun reads => by cases reads⟩
  | case16 _ _ _ _ ih =>
    simp only [List.cons_append, matchAt] at h
    obtain ⟨found', rest, _⟩ := ih h
    exact ⟨found', rest, fun reads => by cases reads⟩

/-! ## Where a phrase is found -/

theorem matchesIn_of_search {ps : List Piece} {position : Nat} {cs : List Char} {result : Found}
    (h : search ps position cs = some result) : MatchesIn ps position {} cs result := by
  induction cs generalizing position with
  | nil => exact ⟨[], [], rfl, h⟩
  | cons c cs ih =>
    rw [search, Option.orElse_eq_or, Option.or_eq_some_iff] at h
    rcases h with here | ⟨_, later⟩
    · exact ⟨[], c :: cs, rfl, here⟩
    · exact (ih later).cons c

theorem search_of_matchAt {ps : List Piece} {position : Nat} {cs : List Char} {result : Found}
    (h : matchAt ps position {} cs = some result) : search ps position cs = some result := by
  cases cs with
  | nil => exact h
  | cons c cs => rw [search, h, Option.orElse_some]

theorem search_eq_none {ps : List Piece} {position : Nat} {cs : List Char}
    (h : ∀ place, place <:+ cs → ¬Matches ps place) : search ps position cs = none := by
  induction cs generalizing position with
  | nil => exact matchAt_eq_none_iff.mpr (h [] List.suffix_rfl)
  | cons c cs ih =>
    rw [search, matchAt_eq_none_iff.mpr (h _ List.suffix_rfl), Option.orElse_none]
    exact ih fun place within => h place (within.trans (List.suffix_cons c cs))

/-- A phrase is searched behind a text if it matches at no place of that text. -/
theorem search_append {ps : List Piece} {silent cs : List Char}
    (h : ∀ place, place <:+ silent → place ≠ [] → ¬Matches ps (place ++ cs)) (position : Nat) :
    search ps position (silent ++ cs) = search ps (position + silent.length) cs := by
  induction silent generalizing position with
  | nil => rfl
  | cons c silent ih =>
    have here : ¬Matches ps (c :: (silent ++ cs)) :=
      h _ List.suffix_rfl (List.cons_ne_nil c silent)
    rw [List.cons_append, search, matchAt_eq_none_iff.mpr here, Option.orElse_none, ih,
      List.length_cons, Nat.add_assoc, Nat.add_comm 1]
    exact fun place within => h place (within.trans (List.suffix_cons c silent))

theorem of_firstPhrase {index : Nat} {cs : List Char} {phrases : List (List Piece)}
    {m : ReturnMatch} (h : firstPhrase index cs phrases = some m) :
    ∃ place phrase, m.phrase = index + place ∧ phrases[place]? = some phrase ∧
      search phrase 0 cs = some m.found := by
  induction phrases generalizing index with
  | nil => cases h
  | cons phrase rest ih =>
    rw [firstPhrase] at h
    split at h
    · rename_i found searched
      cases h
      exact ⟨0, phrase, rfl, rfl, searched⟩
    · obtain ⟨place, later, at_index, listed, searched⟩ := ih h
      exact ⟨place + 1, later, by rw [at_index, Nat.add_assoc, Nat.add_comm 1], listed, searched⟩

theorem firstPhrase_of_search {before after : List (List Piece)} {phrase : List Piece}
    {cs : List Char} {found : Found} (passed : ∀ p ∈ before, search p 0 cs = none)
    (hit : search phrase 0 cs = some found) (index : Nat) :
    firstPhrase index cs (before ++ phrase :: after) = some ⟨index + before.length, found⟩ := by
  induction before generalizing index with
  | nil => simp [firstPhrase, hit]
  | cons p before ih =>
    rw [List.forall_mem_cons] at passed
    rw [List.cons_append, firstPhrase, passed.1]
    dsimp only
    rw [ih passed.2, List.length_cons, Nat.add_assoc, Nat.add_comm 1]

/-! ## One piece after the other -/

theorem matchAt_exactly (text : String) (rest : List Piece) (position : Nat) (found : Found)
    (cs : List Char) :
    matchAt (exactly text ++ rest) position found cs =
      (Text.dropPrefix? text.toList cs).bind
        (matchAt rest (position + text.toList.length) found) := by
  rw [exactly]
  induction text.toList generalizing position cs with
  | nil => simp [Text.dropPrefix?]
  | cons t text ih =>
    rw [List.map_cons, List.cons_append]
    cases cs with
    | nil => simp [matchAt, Text.dropPrefix?]
    | cons c cs =>
      by_cases same : c = t
      · subst same
        rw [matchAt, if_pos (by simp), ih]
        simp [Text.dropPrefix?, Nat.add_assoc, Nat.add_comm 1]
      · rw [matchAt, if_neg (by simpa using same)]
        simp [Text.dropPrefix?, Ne.symm same]

/-- A phrase that opens with a text matches behind that text, its first letter in either case. -/
theorem of_matchAt_opening {small : Char} {text : String} {rest : List Piece} {position : Nat}
    {found result : Found} {cs : List Char}
    (h : matchAt (eitherCase small :: exactly text ++ rest) position found cs = some result) :
    ∃ c later, (c = small ∨ c = small.toUpper) ∧ cs = c :: text.toList ++ later ∧
      matchAt rest (position + 1 + text.toList.length) found later = some result := by
  cases cs with
  | nil => simp [eitherCase, matchAt] at h
  | cons c cs =>
    rw [List.cons_append, eitherCase, matchAt] at h
    split at h
    · rename_i letter
      rw [matchAt_exactly, Option.bind_eq_some_iff] at h
      obtain ⟨later, starts, h⟩ := h
      rw [Text.eq_append_of_dropPrefix? starts]
      exact ⟨c, later, by simpa using letter, rfl, h⟩
    · cases h

/-- A stretch of as few characters as will do ends at the first place where the rest of the phrase
matches. -/
theorem matchAt_fewest_iff {p : Char → Bool} {rest : List Piece} {position : Nat}
    {found result : Found} {cs : List Char} :
    matchAt (.fewest p :: rest) position found cs = some result ↔
      ∃ c stretch later, cs = c :: stretch ++ later ∧ (∀ d ∈ c :: stretch, p d = true) ∧
        (∀ place, place <:+ stretch → place ≠ [] → ¬Matches rest (place ++ later)) ∧
        matchAt rest (position + (c :: stretch).length) found later = some result := by
  induction cs generalizing position with
  | nil => simp [matchAt]
  | cons a cs ih =>
    rw [matchAt]
    constructor
    · intro h
      split at h
      · rename_i fits
        rw [Option.orElse_eq_or, Option.or_eq_some_iff, matchAt_eq_none_iff] at h
        rcases h with stops | ⟨goes, h⟩
        · refine ⟨a, [], cs, rfl, by simpa using fits, ?_, stops⟩
          intro place within nonempty
          exact absurd (List.suffix_nil.mp within) nonempty
        · obtain ⟨c, stretch, later, rfl, all, shorter, stops⟩ := ih.mp h
          refine ⟨a, c :: stretch, later, rfl, ?_, ?_, ?_⟩
          · rw [List.forall_mem_cons]
            exact ⟨fits, all⟩
          · intro place within nonempty
            rcases List.suffix_cons_iff.mp within with rfl | within
            · exact goes
            · exact shorter place within nonempty
          · rw [List.length_cons, Nat.add_comm (c :: stretch).length, ← Nat.add_assoc]
            exact stops
      · cases h
    · rintro ⟨c, stretch, later, whole, all, shorter, stops⟩
      obtain ⟨rfl, rfl⟩ := List.cons.inj whole
      rw [List.forall_mem_cons] at all
      rw [if_pos all.1, Option.orElse_eq_or, Option.or_eq_some_iff, matchAt_eq_none_iff]
      cases stretch with
      | nil => exact .inl stops
      | cons c stretch =>
        refine .inr ⟨shorter _ List.suffix_rfl (List.cons_ne_nil c stretch), ih.mpr ?_⟩
        refine ⟨c, stretch, later, rfl, all.2, fun place within => ?_, ?_⟩
        · exact shorter place (within.trans (List.suffix_cons c stretch))
        · rw [Nat.add_assoc, Nat.add_comm 1]
          exact stops

/-- A stretch of as many characters as will do goes on up to a character that does not fit, if the
rest of the phrase matches there. -/
theorem matchAt_most {p : Char → Bool} {rest : List Piece} {run later : List Char}
    (nonempty : run ≠ []) (all : ∀ c ∈ run, p c = true) (stops : ∀ c ∈ later.head?, p c = false)
    {position : Nat} {found result : Found}
    (ends : matchAt rest (position + run.length) found later = some result) :
    matchAt (.most p :: rest) position found (run ++ later) = some result := by
  induction run generalizing position with
  | nil => exact absurd rfl nonempty
  | cons c run ih =>
    rw [List.forall_mem_cons] at all
    rw [List.cons_append, matchAt, if_pos all.1, Option.orElse_eq_or, Option.or_eq_some_iff]
    rw [List.length_cons, Nat.add_comm run.length, ← Nat.add_assoc] at ends
    by_cases last : run = []
    · subst last
      refine .inr ⟨?_, ends⟩
      cases later with
      | nil => rw [List.append_nil, matchAt]
      | cons d later => rw [List.nil_append, matchAt, if_neg (by simp [stops d rfl])]
    · exact .inl (ih last all.2 ends)

/-! ## Words for a type -/

theorem matchAt_of_reads {ps : List Piece} (reads : ps.all Piece.reads = true) {cs : List Char}
    (h : Matches ps cs) (position : Nat) (found : Found) :
    matchAt ps position found cs = some found := by
  obtain ⟨result, matched⟩ := Option.isSome_iff_exists.mp (matches_iff.mp h)
  rw [matched]
  rw [← List.append_nil ps] at matched
  obtain ⟨found', ⟨_, _, _, done⟩, same⟩ := matchesIn_of_append matched
  rw [matchAt, same reads] at done
  exact done.symm

/-- A word for a type that is not followed by another keeps what was found before it. -/
theorem of_matchAt_word {letters rest : List Piece} (plain : letters.all Piece.reads = true)
    (last : rest.all Piece.reads = true) {position : Nat} {found result : Found} {cs : List Char}
    (h : matchAt (.word letters :: rest) position found cs = some result) :
    result.array = found.array ∧ result.start = position := by
  rw [matchAt] at h
  obtain ⟨named, ⟨read, later, _, ended⟩, same⟩ := matchesIn_of_append h
  rw [matchAt, matchAt_of_reads last (.of_some ended), same plain] at ended
  cases ended
  exact ⟨rfl, rfl⟩

/-- A capital word ends before the first character that is not of its class. -/
theorem matchAt_capitalWord {p : Char → Bool} {rest : List Piece} {first : Char}
    {run later : List Char} (capital : first.isUpper = true) (nonempty : run ≠ [])
    (all : ∀ c ∈ run, p c = true) (stops : ∀ c ∈ later.head?, p c = false)
    (reads : rest.all Piece.reads = true) (ends : Matches rest later) (position : Nat)
    (found : Found) :
    matchAt (capitalWord p :: rest) position found (first :: run ++ later) =
      some { found with start := position, stop := position + (first :: run).length } := by
  rw [capitalWord, matchAt, List.cons_append, List.cons_append, List.nil_append, List.cons_append,
    matchAt, if_pos capital]
  refine matchAt_most nonempty all stops ?_
  rw [matchAt, matchAt_of_reads reads ends, Nat.add_assoc, Nat.add_comm 1, List.length_cons]

/-! ## Words that may announce an array -/

theorem matches_announce_iff {words rest : List Piece} {cs : List Char} :
    Matches (.announce words :: rest) cs ↔ Matches (words ++ rest) cs := by
  rw [Matches, matchAt, ← matches_iff]

theorem Matches.perhapsAnnounce {words rest : List Piece} {cs : List Char}
    (h : Matches (words ++ rest) cs) : Matches (.perhapsAnnounce words :: rest) cs := by
  rw [Matches, matchAt, Option.orElse_eq_or, Option.isSome_or, Bool.or_eq_true]
  exact .inl (matches_iff.mp h)

theorem matchAt_announced {words rest : List Piece} {position : Nat} {found result : Found}
    {cs : List Char}
    (h : matchAt (words ++ rest) position { found with array := true } cs = some result) :
    matchAt (.perhapsAnnounce words :: rest) position found cs = some result := by
  rw [matchAt, h, Option.orElse_some]

theorem matchAt_unannounced {words rest : List Piece} {cs : List Char}
    (h : ¬Matches (words ++ rest) cs) (position : Nat) (found : Found) :
    matchAt (.perhapsAnnounce words :: rest) position found cs =
      matchAt rest position found cs := by
  rw [matchAt, matchAt_eq_none_iff.mpr h, Option.orElse_none]

/-- The word for a type behind words that may announce an array: these announced one, or the word
starts right here. -/
theorem of_matchAt_perhapsAnnounce {words letters rest : List Piece}
    (reads : (words ++ letters ++ rest).all Piece.reads = true) {position : Nat}
    {found result : Found} {cs : List Char}
    (h : matchAt (.perhapsAnnounce words :: .word letters :: rest) position found cs =
      some result) :
    result.array = true ∨ result.start = position ∧ Matches (.word letters :: rest) cs := by
  simp only [List.all_append, Bool.and_eq_true] at reads
  obtain ⟨⟨words_read, letters_read⟩, rest_read⟩ := reads
  rw [matchAt, Option.orElse_eq_or, Option.or_eq_some_iff] at h
  rcases h with announced | ⟨_, named⟩
  · left
    obtain ⟨_, ⟨_, _, _, named⟩, same⟩ := matchesIn_of_append announced
    rw [(of_matchAt_word letters_read rest_read named).1, same words_read]
  · right
    exact ⟨(of_matchAt_word letters_read rest_read named).2, .of_some named⟩

theorem matchAt_arrayOf (rest : List Piece) (position : Nat) (found : Found) (later : List Char) :
    matchAt (starredArrayOf ++ rest) position found ("array of ".toList ++ later) =
      matchAt rest (position + 9) found later := by
  simp [starredArrayOf, eitherCase, exactly, matchAt]

end ApiReference.Page
