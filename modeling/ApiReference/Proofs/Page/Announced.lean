import Mathlib
import ApiReference.Proofs.Outcome
import ApiReference.Proofs.Page.Phrases

/-!
Arrays that a description announces. Where ` array of ` stands right before the word that names the
type of a result, the first four phrases make an array of that type; the last phrase has no place
for such an announcement, and never makes one (`announced_array_iff`).
-/

namespace ApiReference

theorem WireType.ofPageWord_ne_array {field : Option String} {cs : List Char} {t : WireType}
    (h : ofPageWord field cs = .ok t) (element : WireType) : t ≠ .array element := by
  rintro rfl
  unfold ofPageWord at h
  dsimp only at h
  split at h
  case h_11 => split at h <;> cases h
  all_goals cases h

namespace Page

/-- Whether a text ends with the announcement of an array. -/
def Announces (preceding : List Char) : Prop :=
  " array of ".toList <:+ preceding ∨ " Array of ".toList <:+ preceding

/-- An announcement ends a text behind a character that none holds. -/
theorem Announces.of_append {pre stretch : List Char} {c : Char}
    (h : Announces (pre ++ c :: stretch)) (other : c ∉ " array of ".toList ++ " Array of ".toList) :
    Announces stretch := by
  rw [List.mem_append, not_or] at other
  rcases h with small | capital
  · exact .inl (Text.suffix_of_append_cons small other.1)
  · exact .inr (Text.suffix_of_append_cons capital other.2)

/-! ## The phrases -/

/-- An array that is announced after `Returns` is one. -/
theorem array_of_returnsOnSuccess {before after : List Char} {result : Found}
    (h : matchAt returnsOnSuccess before.length {} after = some result)
    (announced : Announces ((before ++ after).take result.start)) : result.array = true := by
  obtain ⟨c, later, _, rfl, named⟩ := of_matchAt_opening h
  rcases of_matchAt_perhapsAnnounce rfl named with array | ⟨place, _⟩
  · exact array
  · have length : (before ++ c :: "eturn".toList ++ 's' :: [' ']).length = result.start := by
      simp [place, Nat.add_assoc]
    have split : before ++ (c :: "eturns ".toList ++ later) =
        before ++ c :: "eturn".toList ++ 's' :: [' '] ++ later := by simp
    rw [split, List.take_left' length] at announced
    have short : ¬Announces [' '] := by
      unfold Announces
      decide
    exact absurd (announced.of_append (by decide)) short

/-- An array that is announced between an opening and the word for the type is one: the stretch of
small letters between the two would have ended where the announcement starts. -/
theorem array_of_stretch {small last : Char} {opening : String} {letters rest : List Piece}
    {before after : List Char} {result : Found}
    (h : matchAt (eitherCase small :: exactly opening ++
      .fewest notCapital :: .perhapsAnnounce starredArrayOf :: .word letters :: rest)
      before.length {} after = some result)
    (reads : (letters ++ rest).all Piece.reads = true)
    (ends : opening.toList.getLast? = some last)
    (other : last ∉ " array of ".toList ++ " Array of ".toList)
    (announced : Announces ((before ++ after).take result.start)) : result.array = true := by
  obtain ⟨start, ends⟩ := List.getLast?_eq_some_iff.mp ends
  obtain ⟨c, following, _, rfl, stretched⟩ := of_matchAt_opening h
  obtain ⟨d, stretch, later, rfl, noCapital, shorter, named⟩ := matchAt_fewest_iff.mp stretched
  rcases of_matchAt_perhapsAnnounce reads named with array | ⟨place, word⟩
  · exact array
  · have length : (before ++ c :: start ++ last :: d :: stretch).length = result.start := by
      rw [place, ends]
      simp only [List.length_append, List.length_cons, List.length_nil]
      omega
    have split : before ++ (c :: opening.toList ++ (d :: stretch ++ later)) =
        before ++ c :: start ++ last :: d :: stretch ++ later := by simp [ends]
    rw [split, List.take_left' length] at announced
    rcases announced.of_append other with small | capital
    · have spaced : " array of ".toList = ' ' :: "array of ".toList := by simp
      rw [spaced] at small
      refine absurd ?_ (shorter _ (Text.suffix_of_cons small) (by simp))
      refine Matches.perhapsAnnounce ?_
      rw [Matches, matchAt_arrayOf]
      exact matches_iff.mp word
    · exact absurd (noCapital 'A' (capital.subset (by simp))) (by decide)

theorem array_of_arrayIsReturned {position : Nat} {after : List Char} {result : Found}
    (h : matchAt arrayIsReturned position {} after = some result) : result.array = true := by
  rw [arrayIsReturned, matchAt] at h
  obtain ⟨_, ⟨_, _, _, stretched⟩, same⟩ := matchesIn_of_append h
  obtain ⟨_, _, _, _, _, _, named⟩ := matchAt_fewest_iff.mp stretched
  rw [(of_matchAt_word rfl rfl named).1, same rfl]

theorem not_array_of_returnsCapital {position : Nat} {after : List Char} {result : Found}
    (h : matchAt returnsCapital position {} after = some result) : result.array = false := by
  obtain ⟨_, _, _, _, stretched⟩ := of_matchAt_opening h
  obtain ⟨_, _, _, _, _, _, named⟩ := matchAt_fewest_iff.mp stretched
  rw [(of_matchAt_word rfl rfl named).1]

/-! ## The type of a result -/

/-- Where an array is announced, one is found by every phrase but the last. -/
theorem array_iff_of_announced {description : String} {m : ReturnMatch}
    (matched : returnMatch? description = some m)
    (announced : Announces (description.toList.take m.found.start)) :
    m.found.array = true ↔ m.phrase ≠ 4 := by
  obtain ⟨place, phrase, index, listed, searched⟩ := of_firstPhrase matched
  obtain ⟨before, after, split, found⟩ := matchesIn_of_search searched
  rw [Nat.zero_add] at index found
  rw [split] at announced
  rw [index]
  match place, listed with
  | 0, rfl => simp [array_of_arrayIsReturned found]
  | 1, rfl => simp [array_of_returnsOnSuccess found announced]
  | 2, rfl => simp [array_of_stretch found rfl rfl (by decide) announced]
  | 3, rfl => simp [array_of_stretch found rfl rfl (by decide) announced]
  | 4, rfl => simp [not_array_of_returnsCapital found]

/-- If an array is announced right before the word that names the type of a result, the type is an
array, unless the last phrase found that word. -/
theorem announced_array_iff {description : String} {m : ReturnMatch} {t : WireType}
    (matched : returnMatch? description = some m) (typed : returnType description = .ok t)
    (announced : Announces (description.toList.take m.found.start)) :
    (∃ element, t = .array element) ↔ m.phrase ≠ 4 := by
  rw [returnType, matched] at typed
  obtain ⟨base, word, made⟩ := of_bind_ok typed
  have single := WireType.ofPageWord_ne_array (of_mapError_ok word)
  rw [← array_iff_of_announced matched announced]
  cases made
  cases array : m.found.array with
  | false => simpa [WireType.arrays] using single
  | true => simp [WireType.arrays]

theorem announced_array_of_updateList :
    returnMatch? "On success, returns an array of Update objects." = some ⟨2, ⟨true, 32, 38⟩⟩ ∧
      returnType "On success, returns an array of Update objects." =
        .ok (.array (.named "Update")) ∧
      Announces ("On success, returns an array of Update objects.".toList.take 32) ∧
      ∃ element, WireType.array (.named "Update") = .array element := by
  have matched : returnMatch? "On success, returns an array of Update objects." =
      some ⟨2, ⟨true, 32, 38⟩⟩ := by cbv
  have typed : returnType "On success, returns an array of Update objects." =
      .ok (.array (.named "Update")) := by cbv
  have announced :
      Announces ("On success, returns an array of Update objects.".toList.take 32) := by
    unfold Announces
    decide
  exact ⟨matched, typed, announced, (announced_array_iff matched typed announced).mpr (by decide)⟩

/-- After `Returns` alone the announcement of an array is read over. -/
theorem announced_array_lost :
    returnMatch? "Returns an array of Update objects." = some ⟨4, ⟨false, 20, 26⟩⟩ ∧
      Announces ("Returns an array of Update objects.".toList.take 20) ∧
      returnType "Returns an array of Update objects." = .ok (.named "Update") := by
  refine ⟨by cbv, ?_, by cbv⟩
  unfold Announces
  decide

end Page

end ApiReference
