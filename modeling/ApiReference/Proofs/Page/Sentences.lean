import Mathlib
import ApiReference.Proofs.Page.Phrases
import ApiReference.Proofs.WireType.TypeText

/-!
The usual sentences about a result, such as `An Array of Update objects is returned.`, behind a text
in which no phrase starts. The phrases that are tried before the one for a sentence lack something
in it; that one matches at its first character and takes the whole word for the type
(`returnType_of_sentences`).
-/

namespace ApiReference.Page

/-! ## Texts in which no phrase starts -/

/-- What stands behind the first letter wherever a phrase but the last one starts. -/
def openings : List String := ["n array of", "n Array of", "eturns", "n success,"]

/-- Whether no opening stands in a text. -/
def Silent (text : String) : Prop := ∀ w ∈ openings, ¬w.toList <:+: text.toList

/-- Whether no opening that starts before a text runs on into it. -/
def Apart (cs : List Char) : Prop :=
  ∀ w ∈ openings, ∀ part, part <:+ w.toList → part <+: cs → part = []

/-- Whether a phrase needs an opening behind the first character. -/
def Opens (ps : List Piece) : Prop :=
  ∀ c cs, Matches ps (c :: cs) → ∃ w ∈ openings, w.toList <+: cs

theorem opens_arrayIsReturned : Opens arrayIsReturned := by
  intro c cs matched
  rw [arrayIsReturned, matches_announce_iff] at matched
  obtain ⟨result, h⟩ := Option.isSome_iff_exists.mp matched
  have article : ∃ c' later, (c' = 'a' ∨ c' = 'A') ∧ c :: cs = c' :: "n ".toList ++ later ∧
      matchAt _ _ _ later = some result := of_matchAt_opening h
  obtain ⟨_, array, _, whole, h⟩ := article
  obtain ⟨a, later, letter, rfl, _⟩ := of_matchAt_opening h
  have read : cs = "n ".toList ++ a :: "rray of".toList ++ later := by
    simpa using (List.cons.inj whole).2
  rcases letter with rfl | rfl
  · exact ⟨"n array of", by simp [openings], later, by rw [read]; simp⟩
  · exact ⟨"n Array of", by simp [openings], later, by rw [read]; simp⟩

theorem opens_of_opening {small : Char} {text : String} {rest : List Piece} {word : String}
    (listed : word ∈ openings) (starts : word.toList <+: text.toList) :
    Opens (eitherCase small :: exactly text ++ rest) := by
  intro c cs matched
  obtain ⟨result, h⟩ := Option.isSome_iff_exists.mp matched
  obtain ⟨a, later, _, whole, _⟩ := of_matchAt_opening h
  refine ⟨word, listed, ?_⟩
  rw [(List.cons.inj whole).2]
  exact starts.trans (List.prefix_append _ later)

theorem opens_of_mem {phrase : List Piece} (usual : phrase ∈ returnPhrases.dropLast) :
    Opens phrase := by
  simp only [returnPhrases, List.dropLast, List.mem_cons, List.not_mem_nil, or_false] at usual
  rcases usual with rfl | rfl | rfl | rfl
  · exact opens_arrayIsReturned
  · exact opens_of_opening (show "eturns" ∈ openings by simp [openings]) (by decide)
  · exact opens_of_opening (show "n success," ∈ openings by simp [openings]) (by decide)
  · exact opens_of_opening (show "n success," ∈ openings by simp [openings]) (by decide)

theorem apart_of_head {c : Char} (other : ∀ w ∈ openings, c ∉ w.toList) (cs : List Char) :
    Apart (c :: cs) :=
  fun w hw _ => Text.eq_nil_of_head (other w hw)

/-- A phrase is searched behind a silent text. -/
theorem search_behind {phrase : List Piece} (usual : phrase ∈ returnPhrases.dropLast)
    {text : String} (silent : Silent text) {cs : List Char} (apart : Apart cs) (position : Nat) :
    search phrase position (text.toList ++ cs) =
      search phrase (position + text.toList.length) cs := by
  refine search_append (fun place within nonempty matched => ?_) position
  obtain ⟨c, rest, rfl⟩ := List.exists_cons_of_ne_nil nonempty
  obtain ⟨w, hw, starts⟩ := opens_of_mem usual c (rest ++ cs) matched
  have inside := Text.prefix_of_apart (apart w hw) starts
  exact silent w hw (inside.isInfix.trans ((List.suffix_cons c rest).trans within).isInfix)

/-! ## Texts that a phrase needs -/

theorem infix_of_matches (before : List Piece) (text : String) (after : List Piece)
    {cs : List Char} (h : Matches (before ++ (exactly text ++ after)) cs) :
    text.toList <:+: cs := by
  obtain ⟨result, matched⟩ := Option.isSome_iff_exists.mp h
  obtain ⟨_, ⟨read, later, rfl, inside⟩, _⟩ := matchesIn_of_append matched
  rw [matchAt_exactly, Option.bind_eq_some_iff] at inside
  obtain ⟨following, starts, _⟩ := inside
  rw [Text.eq_append_of_dropPrefix? starts]
  exact ⟨read, following, List.append_assoc ..⟩

theorem infix_of_arrayIsReturned {cs : List Char} (h : Matches arrayIsReturned cs) :
    " of".toList <:+: cs ∧ " returned".toList <:+: cs := by
  rw [arrayIsReturned, matches_announce_iff] at h
  let array := eitherCase 'a' :: exactly "n " ++ eitherCase 'a' :: exactly "rray"
  let stretch := Piece.fewest inLine :: capitalWord Char.isAlpha :: .fewest inLine :: exactly "is"
  exact ⟨infix_of_matches array " of" _ h,
    infix_of_matches (array ++ exactly " of" ++ stretch) " returned" [] h⟩

theorem infix_of_returnsOnSuccess {cs : List Char} (h : Matches returnsOnSuccess cs) :
    " on success".toList <:+: cs :=
  infix_of_matches (eitherCase 'r' :: exactly "eturns " ++
    Piece.perhapsAnnounce (eitherCase 'a' :: exactly "rray of ") ::
    [Piece.word [.most letterOrStar]]) " on success" [] h

theorem infix_of_onSuccessReturns {cs : List Char} (h : Matches onSuccessReturns cs) :
    ", returns".toList <:+: cs :=
  infix_of_matches (eitherCase 'o' :: exactly "n success") ", returns" _ h

/-- A phrase matches nowhere in a text that lacks what it needs. -/
theorem not_matches_of_absent {phrase : List Piece} {part cs : List Char}
    (needs : ∀ {cs}, Matches phrase cs → part <:+: cs) (absent : ¬part <:+: cs) :
    ∀ place, place <:+ cs → ¬Matches phrase place :=
  fun _ within matched => absent ((needs matched).trans within.isInfix)

/-! ## The sentences -/

/-- Whether a word is two ASCII letters or more, a capital first, and not `array`. -/
structure PlainName (word : String) : Prop where
  letters : ∀ c ∈ word.toList, c.isAlpha = true
  long : 2 ≤ word.length
  capital : word.toList.head?.any Char.isUpper = true
  noArray : Text.equalIgnoringCase word "array" = false

/-- Whether a capital and the letters after it make a plain name. -/
structure Spelled (first : Char) (run : List Char) : Prop where
  capital : first.isUpper = true
  nonempty : run ≠ []
  letters : ∀ c ∈ run, c.isAlpha = true

theorem PlainName.spelled {word : String} (name : PlainName word) :
    ∃ first run, word.toList = first :: run ∧ Spelled first run := by
  obtain ⟨letters, long, capital, _⟩ := name
  rw [← String.length_toList] at long
  match shape : word.toList with
  | [] => simp [shape] at long
  | [_] => simp [shape] at long
  | first :: second :: run =>
    rw [shape] at letters capital
    exact ⟨first, second :: run, rfl, capital, by simp, fun c hc => letters c (.tail _ hc)⟩

section Spelled

variable {first : Char} {run : List Char}

theorem Spelled.starred (name : Spelled first run) : ∀ c ∈ first :: run, letterOrStar c = true := by
  rw [List.forall_mem_cons]
  constructor
  · simp [letterOrStar, Char.isAlpha, name.capital]
  · intro c hc
    simp [letterOrStar, name.letters c hc]

/-- What starts with no letter and holds no capital stands before a capital word or behind it. -/
theorem Spelled.not_infix (name : Spelled first run) {part before after : List Char}
    (starts : part.head?.all (fun c => !c.isAlpha) = true)
    (small : part.all (fun c => !c.isUpper) = true)
    (notBefore : ¬part <:+: before) (notAfter : ¬part <:+: after) :
    ¬part <:+: before ++ (first :: run ++ after) := by
  intro inside
  have other : first ∉ part := by
    intro capital
    have letter := List.all_eq_true.mp small first capital
    rw [name.capital] at letter
    cases letter
  rcases Text.infix_append_cons other inside with inside | inside
  · exact notBefore inside
  · cases part with
    | nil => exact notAfter List.nil_infix
    | cons c part =>
      have noLetter : c ∉ run := by
        intro letter
        have contrary : c.isAlpha = false := by simpa using starts
        rw [name.letters c letter] at contrary
        cases contrary
      exact notAfter (Text.infix_of_append noLetter inside)

theorem Spelled.matchAt_arrayIsReturned (name : Spelled first run) (position : Nat) :
    matchAt arrayIsReturned position {}
      ("An Array of ".toList ++ (first :: run ++ " objects is returned.".toList)) =
      some ⟨true, position + 12, position + 12 + (first :: run).length⟩ := by
  have read (rest : List Piece) (found : Found) (later : List Char) :
      matchAt ((eitherCase 'a' :: exactly "n " ++ eitherCase 'a' :: exactly "rray of") ++ rest)
        position found ("An Array of ".toList ++ later) =
          matchAt rest (position + 11) found (' ' :: later) := by
    simp [eitherCase, exactly, matchAt]
  have ends : Matches (.fewest inLine :: exactly "is returned") " objects is returned.".toList := by
    unfold Matches
    cbv
  rw [arrayIsReturned, matchAt, read]
  refine matchAt_fewest_iff.mpr
    ⟨' ', [], first :: run ++ " objects is returned.".toList, rfl, by simp [inLine], ?_, ?_⟩
  · intro place within nonempty
    exact absurd (List.suffix_nil.mp within) nonempty
  · exact matchAt_capitalWord name.capital name.nonempty name.letters (by simp) rfl ends _ _

theorem Spelled.matchAt_returnsOnSuccess (name : Spelled first run) (position : Nat) :
    matchAt returnsOnSuccess position {}
      ("Returns ".toList ++ (first :: run ++ " on success.".toList)) =
      some ⟨false, position + 8, position + 8 + (first :: run).length⟩ := by
  have read (rest : List Piece) (found : Found) (later : List Char) :
      matchAt (eitherCase 'r' :: exactly "eturns " ++ rest) position found
        ("Returns ".toList ++ later) = matchAt rest (position + 8) found later := by
    simp [eitherCase, exactly, matchAt]
  have ends : Matches (exactly " on success") " on success.".toList := by
    unfold Matches
    cbv
  rw [returnsOnSuccess, read, matchAt_unannounced]
  · rw [matchAt, List.cons_append, List.nil_append]
    refine matchAt_most (List.cons_ne_nil first run) name.starred (by simp [letterOrStar]) ?_
    rw [matchAt, matchAt_of_reads rfl ends]
  · intro announced
    have inside := infix_of_matches (eitherCase 'a' :: exactly "rray") " of " _ announced
    have before : ¬" of ".toList <:+: [] := by decide
    exact name.not_infix rfl rfl before (by decide) inside

/-- Neither an array nor a capital word starts with a small letter or a space, `a` apart. -/
theorem not_matches_small {p : Char → Bool} {rest : List Piece} {c : Char}
    (small : c.isUpper = false) (other : c ≠ '*' ∧ c ≠ 'a') (later : List Char) :
    ¬Matches (.perhapsAnnounce starredArrayOf :: capitalWord p :: rest) (c :: later) := by
  have noCapital : c ≠ 'A' := by
    rintro rfl
    cases small
  simp [Matches, matchAt, starredArrayOf, capitalWord, eitherCase, small, other, noCapital]

theorem not_matches_an {p : Char → Bool} {rest : List Piece} (later : List Char) :
    ¬Matches (.perhapsAnnounce starredArrayOf :: capitalWord p :: rest) ('a' :: 'n' :: later) := by
  simp [Matches, matchAt, starredArrayOf, capitalWord, eitherCase, exactly]

theorem Spelled.matchAt_onSuccessReturns (name : Spelled first run) {array : String}
    (spelled : array ∈ ["Array", "array", "*Array*"]) (position : Nat) :
    matchAt onSuccessReturns position {}
      ("On success, returns an ".toList ++ array.toList ++ " of ".toList ++
        (first :: run ++ " objects.".toList)) =
      some ⟨true,
        position + ("On success, returns an ".toList ++ array.toList ++ " of ".toList).length,
        position + ("On success, returns an ".toList ++ array.toList ++ " of ".toList).length +
          (first :: run).length⟩ := by
  have read (rest : List Piece) (found : Found) (later : List Char) :
      matchAt (eitherCase 'o' :: exactly "n success, returns" ++ rest) position found
        ("On success, returns an ".toList ++ later) =
          matchAt rest (position + 19) found (" an ".toList ++ later) := by
    simp [eitherCase, exactly, matchAt]
  have announced (rest : List Piece) (position : Nat) (found : Found) (later : List Char) :
      matchAt (starredArrayOf ++ rest) position found
        (array.toList ++ " of ".toList ++ later) =
          matchAt rest (position + (array.toList.length + 4)) found later := by
    simp only [List.mem_cons, List.not_mem_nil, or_false] at spelled
    rcases spelled with rfl | rfl | rfl <;> simp [starredArrayOf, eitherCase, exactly, matchAt]
  have ends : Matches [] " objects.".toList := by
    unfold Matches
    cbv
  rw [List.append_assoc, List.append_assoc, onSuccessReturns, read]
  refine matchAt_fewest_iff.mpr ⟨' ', "an ".toList, array.toList ++ " of ".toList ++
        (first :: run ++ " objects.".toList), by simp, by simp [notCapital], ?_, ?_⟩
  · intro place within nonempty
    simp [List.suffix_cons_iff, nonempty] at within
    rcases within with rfl | rfl | rfl
    · exact not_matches_an _
    · exact not_matches_small rfl (by decide) _
    · exact not_matches_small rfl (by decide) _
  · refine matchAt_announced ?_
    rw [announced, matchAt_capitalWord name.capital name.nonempty name.letters (by simp) rfl ends]
    simp
    omega

theorem Spelled.matchAt_onSuccessIsReturned (name : Spelled first run) (position : Nat) :
    matchAt onSuccessIsReturned position {}
      ("On success, the sent ".toList ++ (first :: run ++ " is returned.".toList)) =
      some ⟨false, position + 21, position + 21 + (first :: run).length⟩ := by
  have read (rest : List Piece) (found : Found) (later : List Char) :
      matchAt (eitherCase 'o' :: exactly "n success," ++ rest) position found
        ("On success, the sent ".toList ++ later) =
          matchAt rest (position + 11) found (" the sent ".toList ++ later) := by
    simp [eitherCase, exactly, matchAt]
  have ends : Matches (.fewest inLine :: exactly "is returned") " is returned.".toList := by
    unfold Matches
    cbv
  rw [onSuccessIsReturned, read]
  refine matchAt_fewest_iff.mpr ⟨' ', "the sent ".toList, first :: run ++ " is returned.".toList,
    by simp, by simp [notCapital], ?_, ?_⟩
  · intro place within nonempty
    obtain ⟨c, place, rfl⟩ := List.exists_cons_of_ne_nil nonempty
    have small : ∀ c ∈ "the sent ".toList, c.isUpper = false ∧ c ≠ '*' ∧ c ≠ 'a' := by simp
    obtain ⟨capital, other⟩ := small c (within.subset List.mem_cons_self)
    exact not_matches_small capital other _
  · rw [matchAt_unannounced]
    · rw [matchAt_capitalWord name.capital name.nonempty (List.forall_mem_cons.mp name.starred).2
        (by simp [letterOrStar]) rfl ends]
      simp [Nat.add_assoc]
    · intro announced
      let array := Piece.atMostOne (· == '*') :: eitherCase 'a' :: exactly "rray" ++
        [Piece.atMostOne (· == '*')]
      have inside := infix_of_matches array " of " _ announced
      have before : ¬" of ".toList <:+: [] := by decide
      exact name.not_infix rfl rfl before (by decide) inside

end Spelled

/-! ## The type that a sentence tells -/

/-- A plain name has a meaning where no field is described. -/
theorem PlainName.ofPageWord_ok {word : String} (name : PlainName word) :
    ∃ base, WireType.ofPageWord none word.toList = .ok base := by
  have alphanumeric : ∀ c ∈ word.toList, Text.isAlphanumeric c = true := fun c hc => by
    simp [Text.isAlphanumeric, Char.isAlphanum, name.letters c hc]
  have tight : Text.Tight word.toList := by
    refine Text.tight_of_forall ?_ fun c hc => Text.isBlank_of_isAlphanumeric (alphanumeric c hc)
    obtain ⟨first, run, shape, _⟩ := name.spelled
    rw [shape]
    exact List.cons_ne_nil first run
  have noStar : ∀ c ∈ word.toList, c ≠ '*' := by
    rintro _ hc rfl
    exact absurd (name.letters _ hc) (by decide)
  unfold WireType.ofPageWord
  dsimp only
  rw [WireType.bareWord_of_tight tight noStar, String.ofList_toList]
  split
  case h_10 same =>
    rw [Text.lowercase_eq_iff (by simp), ← WireType.equalIgnoringCase_iff (by decide),
      name.noArray] at same
    cases same
  case h_11 => exact ⟨_, if_pos (WireType.nameLike_of_capital name.capital alphanumeric)⟩
  all_goals exact ⟨_, rfl⟩

/-- Behind a silent text, the first phrase that a sentence matches tells the type of the word. -/
theorem returnType_behind {text : String} (silent : Silent text) {pre word post : List Char}
    (apart : Apart (pre ++ (word ++ post))) {before after : List (List Piece)}
    {phrase : List Piece} (listed : returnPhrases = before ++ phrase :: after)
    (notLast : after ≠ [])
    (passed : ∀ p ∈ before, ∀ place, place <:+ pre ++ (word ++ post) → ¬Matches p place)
    {array : Bool} (hit : ∀ position, matchAt phrase position {} (pre ++ (word ++ post)) =
      some ⟨array, position + pre.length, position + pre.length + word.length⟩)
    {base : WireType} (meaning : WireType.ofPageWord none word = .ok base)
    {description : String} (split : description.toList = text.toList ++ (pre ++ (word ++ post))) :
    returnType description = .ok (WireType.arrays (if array then 1 else 0) base) := by
  have usual : returnPhrases.dropLast = before ++ phrase :: after.dropLast := by
    rw [listed, List.dropLast_append_of_ne_nil (List.cons_ne_nil _ _),
      List.dropLast_cons_of_ne_nil notLast]
  have found : returnMatch? description = some ⟨before.length, array,
      text.toList.length + pre.length, text.toList.length + pre.length + word.length⟩ := by
    rw [returnMatch?, split, listed]
    refine (firstPhrase_of_search (fun p hp => ?_) ?_ 0).trans (by rw [Nat.zero_add])
    · rw [search_behind (by simp [usual, hp]) silent apart]
      exact search_eq_none (passed p hp)
    · rw [search_behind (by simp [usual]) silent apart, Nat.zero_add]
      exact search_of_matchAt (hit _)
  have read : (description.toList.drop (text.toList.length + pre.length)).take word.length
      = word := by
    rw [split, ← List.append_assoc, ← List.length_append]
    simp
  rw [returnType, found]
  dsimp only
  rw [Found.word, Nat.add_sub_cancel_left, read, meaning]
  rfl

section

variable {first : Char} {run : List Char} {text : String} {base : WireType}

theorem Spelled.returnType_arrayIsReturned (name : Spelled first run) (silent : Silent text)
    (meaning : WireType.ofPageWord none (first :: run) = .ok base) {description : String}
    (split : description.toList = text.toList ++
      ("An Array of ".toList ++ (first :: run ++ " objects is returned.".toList))) :
    returnType description = .ok (.array base) := by
  refine returnType_behind silent ?_ (show returnPhrases = [] ++ _ :: _ from rfl) (by simp)
    (by simp) name.matchAt_arrayIsReturned meaning split
  intro w hw part ends starts
  simp only [openings, List.mem_cons, List.not_mem_nil, or_false] at hw
  rcases hw with rfl | rfl | rfl | rfl
  · exact Text.eq_nil_of_head (by decide) ends starts
  · -- The ends of the only opening with a capital, of which none starts the sentence.
    simp [List.suffix_cons_iff] at ends
    rcases ends with rfl | rfl | rfl | rfl | rfl | rfl | rfl | rfl | rfl | rfl | rfl
    all_goals simp at starts
    rfl
  · exact Text.eq_nil_of_head (by decide) ends starts
  · exact Text.eq_nil_of_head (by decide) ends starts

theorem Spelled.returnType_returnsOnSuccess (name : Spelled first run) (silent : Silent text)
    (meaning : WireType.ofPageWord none (first :: run) = .ok base) {description : String}
    (split : description.toList = text.toList ++
      ("Returns ".toList ++ (first :: run ++ " on success.".toList))) :
    returnType description = .ok base := by
  refine returnType_behind silent (apart_of_head (by decide) _)
    (show returnPhrases = [arrayIsReturned] ++ _ :: _ from rfl) (by simp) ?_
    name.matchAt_returnsOnSuccess meaning split
  rw [List.forall_mem_singleton]
  exact not_matches_of_absent (fun h => (infix_of_arrayIsReturned h).2)
    (name.not_infix rfl rfl (by decide) (by decide))

theorem Spelled.returnType_onSuccessReturns (name : Spelled first run) (silent : Silent text)
    (meaning : WireType.ofPageWord none (first :: run) = .ok base) {array : String}
    (spelled : array ∈ ["Array", "array", "*Array*"]) {description : String}
    (split : description.toList = text.toList ++
      ("On success, returns an ".toList ++ array.toList ++ " of ".toList ++
        (first :: run ++ " objects.".toList))) :
    returnType description = .ok (.array base) := by
  refine returnType_behind silent (apart_of_head (by decide) _)
    (show returnPhrases = [arrayIsReturned, returnsOnSuccess] ++ _ :: _ from rfl)
    (by simp) ?_ (name.matchAt_onSuccessReturns spelled) meaning split
  have absent : ∀ part ∈ [" returned", " on success"],
      ¬part.toList <:+: "On success, returns an ".toList ++ array.toList ++ " of ".toList := by
    simp only [List.mem_cons, List.not_mem_nil, or_false] at spelled
    rcases spelled with rfl | rfl | rfl <;> decide
  rw [List.forall_mem_cons, List.forall_mem_singleton] at absent ⊢
  constructor
  · exact not_matches_of_absent (fun h => (infix_of_arrayIsReturned h).2)
      (name.not_infix rfl rfl absent.1 (by decide))
  · exact not_matches_of_absent infix_of_returnsOnSuccess
      (name.not_infix rfl rfl absent.2 (by decide))

theorem Spelled.returnType_onSuccessIsReturned (name : Spelled first run) (silent : Silent text)
    (meaning : WireType.ofPageWord none (first :: run) = .ok base) {description : String}
    (split : description.toList = text.toList ++
      ("On success, the sent ".toList ++ (first :: run ++ " is returned.".toList))) :
    returnType description = .ok base := by
  refine returnType_behind silent (apart_of_head (by decide) _)
    (show returnPhrases =
      [arrayIsReturned, returnsOnSuccess, onSuccessReturns] ++ _ :: _ from rfl)
    (by simp) ?_ name.matchAt_onSuccessIsReturned meaning split
  rw [List.forall_mem_cons, List.forall_mem_cons, List.forall_mem_singleton]
  refine ⟨?_, ?_, ?_⟩
  · exact not_matches_of_absent (fun h => (infix_of_arrayIsReturned h).1)
      (name.not_infix rfl rfl (by decide) (by decide))
  · exact not_matches_of_absent infix_of_returnsOnSuccess
      (name.not_infix rfl rfl (by decide) (by decide))
  · exact not_matches_of_absent infix_of_onSuccessReturns
      (name.not_infix rfl rfl (by decide) (by decide))

end

/-- The usual sentences about a result tell its type, behind any text in which no phrase starts. -/
theorem returnType_of_sentences {text word : String} (silent : Silent text)
    (name : PlainName word) :
    ∃ base, WireType.ofPageWord none word.toList = .ok base ∧
      returnType (text ++ "An Array of " ++ word ++ " objects is returned.") = .ok (.array base) ∧
      returnType (text ++ "Returns " ++ word ++ " on success.") = .ok base ∧
      (∀ array ∈ ["Array", "array", "*Array*"],
        returnType (text ++ "On success, returns an " ++ array ++ " of " ++ word ++ " objects.") =
          .ok (.array base)) ∧
      returnType (text ++ "On success, the sent " ++ word ++ " is returned.") = .ok base := by
  obtain ⟨base, meaning⟩ := name.ofPageWord_ok
  obtain ⟨first, run, shape, spelled⟩ := name.spelled
  have split (pre post : String) : (text ++ pre ++ word ++ post).toList =
      text.toList ++ (pre.toList ++ (first :: run ++ post.toList)) := by
    simp [shape]
  rw [shape] at meaning
  refine ⟨base, by rw [shape, meaning], ?_, ?_, ?_, ?_⟩
  · exact spelled.returnType_arrayIsReturned silent meaning (split ..)
  · exact spelled.returnType_returnsOnSuccess silent meaning (split ..)
  · intro array hArray
    exact spelled.returnType_onSuccessReturns silent meaning hArray (by simp [shape])
  · exact spelled.returnType_onSuccessIsReturned silent meaning (split ..)

theorem returnType_of_updateSentences :
    Silent "Use this method. " ∧ PlainName "Update" ∧
      returnType ("Use this method. " ++ "An Array of " ++ "Update" ++ " objects is returned.") =
        .ok (.array (.named "Update")) ∧
      returnType ("Use this method. " ++ "Returns " ++ "Update" ++ " on success.") =
        .ok (.named "Update") ∧
      (∀ array ∈ ["Array", "array", "*Array*"],
        returnType ("Use this method. " ++ "On success, returns an " ++ array ++ " of " ++
          "Update" ++ " objects.") = .ok (.array (.named "Update"))) ∧
      returnType ("Use this method. " ++ "On success, the sent " ++ "Update" ++ " is returned.") =
        .ok (.named "Update") := by
  have silent : Silent "Use this method. " := by
    unfold Silent
    decide
  have name : PlainName "Update" := ⟨by simp, by decide, by decide, by decide⟩
  obtain ⟨base, meaning, sentences⟩ := returnType_of_sentences silent name
  have update : WireType.ofPageWord none "Update".toList = .ok (.named "Update") := by cbv
  rw [update] at meaning
  cases meaning
  exact ⟨silent, name, sentences⟩

end ApiReference.Page
