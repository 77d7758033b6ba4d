import ApiReference.Proofs.Outcome
import ApiReference.Proofs.WireType.RoundTrip

/-!
Notation read and written anew. The notation of a type that was read off a text differs from the
text in white space only, so that it is cut at the same bars and read as the same type. That holds
of every text that can be read, with any brackets in the names of foreign types.
-/

namespace ApiReference.WireType

theorem isMark_of_isBlank {c : Char} (h : Text.isBlank c = true) : isMark c = false := by
  by_contra mark
  simp only [isMark, Bool.not_eq_false, Bool.or_eq_true, beq_iff_eq] at mark
  rcases mark with (((rfl | rfl) | rfl) | rfl) | rfl <;> cases h

/-- Trimming takes off no marks. -/
theorem marks_trim (cs : List Char) : (Text.trim cs).filter isMark = cs.filter isMark := by
  obtain ⟨pre, post, whole, before, after⟩ := Text.exists_trim cs
  have noneBefore : pre.filter isMark = [] :=
    List.filter_eq_nil_iff.mpr fun c hc => by simp [isMark_of_isBlank (before c hc)]
  have noneAfter : post.filter isMark = [] :=
    List.filter_eq_nil_iff.mpr fun c hc => by simp [isMark_of_isBlank (after c hc)]
  have split := congrArg (List.filter isMark) whole
  rw [List.filter_append, List.filter_append, noneBefore, noneAfter] at split
  simpa using split.symm

/-- The marks of a text are those of its parts, with bars between them. -/
theorem marks_intercalate (parts : List (List Char)) :
    (['|'].intercalate parts).filter isMark = ['|'].intercalate (parts.map (List.filter isMark)) := by
  induction parts with
  | nil => rfl
  | cons part rest ih =>
    cases rest with
    | nil => rw [List.intercalate_singleton, List.map_singleton, List.intercalate_singleton]
    | cons next rest =>
      rw [List.intercalate_cons_cons, List.filter_append, List.filter_append, ih, List.map_cons,
        List.map_cons, List.map_cons, List.intercalate_cons_cons]
      rfl

/-! ## What a text is read as -/

theorem splitBars_alone_or_several (cs : List Char) :
    splitBars 0 cs = [cs] ∨ 1 < (splitBars 0 cs).length := by
  have whole := intercalate_splitBars 0 cs
  obtain ⟨part, parts, shape⟩ := List.exists_cons_of_ne_nil (splitBars_ne_nil 0 cs)
  rw [shape] at whole ⊢
  cases parts with
  | nil =>
    rw [List.intercalate_singleton] at whole
    rw [whole]
    exact .inl rfl
  | cons next rest => exact .inr (by simp)

/-- A text with the marks of one that is cut nowhere is cut nowhere. -/
theorem splitBars_alone_congr {cs ds : List Char} (alone : splitBars 0 cs = [cs])
    (same : ds.filter isMark = cs.filter isMark) : splitBars 0 ds = [ds] := by
  have single := separate_splitBars 0 cs
  rw [alone] at single
  have other : Separate 0 [ds] := single.congr (by simp [same])
  have whole := other.splitBars_intercalate
  rwa [List.intercalate_singleton] at whole

theorem read_blank {cs : List Char} (empty : Text.trim cs = []) : read cs = .error .empty := by
  rw [read]
  dsimp only
  rw [if_pos (by simp [empty])]

/-- White space around a text does not matter. -/
theorem read_congr {cs ds : List Char} (same : Text.trim cs = Text.trim ds) : read cs = read ds := by
  by_cases empty : Text.trim cs = []
  · rw [read_blank empty, read_blank (same ▸ empty)]
  · rcases splitBars_alone_or_several (Text.trim cs) with alone | several
    · rw [read_alone empty alone, read_alone (same ▸ empty) (same ▸ alone), same]
    · rw [read_several several, read_several (same ▸ several), same]

theorem eq_of_bracketed? {cs inner : List Char} (h : bracketed? cs = some inner) :
    cs = '[' :: (inner ++ [']']) := by
  unfold bracketed? at h
  split at h
  · rw [Text.eq_append_of_dropSuffix? h]
  · cases h

theorem eq_of_foreignName? {cs name : List Char} (h : foreignName? cs = some name) :
    cs = "opaque(".toList ++ name ++ [')'] := by
  unfold foreignName? at h
  cases starts : Text.dropPrefix? "opaque(".toList cs with
  | none =>
    rw [starts] at h
    cases h
  | some rest =>
    rw [starts] at h
    rw [Text.eq_append_of_dropPrefix? starts,
      Text.eq_append_of_dropSuffix? (show _ = some name from h), List.append_assoc]

theorem word_of_ofWord? {cs : List Char} {kind : Scalar} (h : Scalar.ofWord? cs = some kind) :
    kind.word.toList = cs := by
  unfold Scalar.ofWord? at h
  split at h <;> cases h <;> rfl

/-- A word is the notation of the type it is read as. -/
theorem written_of_ofWord {cs : List Char} {t : WireType} (h : ofWord cs = .ok t) :
    written t = cs := by
  unfold ofWord at h
  split at h
  · rename_i name inside
    cases h
    have letters : (String.ofList name).toList = name := String.toList_ofList
    rw [eq_of_foreignName? inside]
    show "opaque(".toList ++ (String.ofList name).toList ++ [')'] = _
    rw [letters]
  · split at h
    · rename_i kind isWord
      cases h
      exact word_of_ofWord? isWord
    · split at h
      · cases h
        exact String.toList_ofList
      · cases h

/-! ## The notation of what was read -/

/-- The notation of a type says the same as a text: it is cut at the same places, has no white
space around it, and is read as that type. -/
structure Rewrites (cs : List Char) (t : WireType) : Prop where
  marks : (written t).filter isMark = cs.filter isMark
  tight : Text.Tight (written t)
  reads : read (written t) = .ok t

theorem Rewrites.word {cs : List Char} {t : WireType} (nonempty : Text.trim cs ≠ [])
    (h : ofWord (Text.trim cs) = .ok t) (read : read cs = .ok t) : Rewrites cs t := by
  have same := written_of_ofWord h
  refine ⟨?_, ?_, ?_⟩
  · rw [same, marks_trim]
  · rw [same]
    exact Text.tight_trim nonempty
  · rw [same, read_congr (Text.trim_trim cs), read]

theorem Rewrites.array {cs inner : List Char} {element : WireType}
    (around : Text.trim cs = '[' :: (inner ++ [']']))
    (alone : splitBars 0 (Text.trim cs) = [Text.trim cs]) (h : Rewrites inner element) :
    Rewrites cs (.array element) := by
  have marks : (written (.array element)).filter isMark = (Text.trim cs).filter isMark := by
    rw [around, written_array, List.filter_cons_of_pos rfl, List.filter_cons_of_pos rfl,
      List.filter_append, List.filter_append, h.marks]
  have tight : Text.Tight (written (.array element)) :=
    Text.tight_of_ends (written element) (by decide) (by decide)
  have trimmed := Text.trim_of_tight tight
  refine ⟨marks.trans (marks_trim cs), tight, ?_⟩
  rw [read_alone (by rw [trimmed]; exact tight.ne_nil)
    (by rw [trimmed]; exact splitBars_alone_congr alone marks), trimmed, written_array,
    bracketed?_array]
  show (read (written element)).map WireType.array = .ok (.array element)
  rw [h.reads]
  rfl

/-- What is read off several parts has their marks. -/
theorem rewrites_of_mapM {parts : List (List Char)} {members : List WireType}
    (h : parts.mapM read = .ok members)
    (each : ∀ part ∈ parts, ∀ t, read part = .ok t → Rewrites part t) :
    (members.map written).map (List.filter isMark) = parts.map (List.filter isMark) ∧
      ∀ m ∈ members, Text.Tight (written m) ∧ read (written m) = .ok m := by
  induction parts generalizing members with
  | nil =>
    cases h
    simp
  | cons part parts ih =>
    rw [List.mapM_cons] at h
    obtain ⟨t, first, h⟩ := of_bind_ok h
    obtain ⟨ts, later, h⟩ := of_bind_ok h
    cases h
    have rewrites := each part List.mem_cons_self t first
    obtain ⟨marks, rest⟩ := ih later fun p hp => each p (List.mem_cons_of_mem _ hp)
    refine ⟨?_, fun m hm => ?_⟩
    · rw [List.map_cons, List.map_cons, rewrites.marks, marks, List.map_cons]
    · rcases List.mem_cons.mp hm with rfl | among
      · exact ⟨rewrites.tight, rewrites.reads⟩
      · exact rest m among

theorem Rewrites.union {cs : List Char} {members : List WireType}
    (several : 1 < (splitBars 0 (Text.trim cs)).length)
    (same : (members.map written).map (List.filter isMark)
      = (splitBars 0 (Text.trim cs)).map (List.filter isMark))
    (each : ∀ m ∈ members, Text.Tight (written m) ∧ read (written m) = .ok m) :
    Rewrites cs (.union members) := by
  have separate : Separate 0 (members.map written) :=
    (separate_splitBars 0 (Text.trim cs)).congr same
  have nonempty : members ≠ [] := by
    rintro rfl
    exact separate
  have tight : Text.Tight (written (.union members)) :=
    tight_writtenMembers nonempty fun m hm => (each m hm).1
  have trimmed := Text.trim_of_tight tight
  refine ⟨?_, tight, ?_⟩
  · have spacing := writtenMembers_eq [] nonempty
    rw [List.nil_append] at spacing
    rw [written_union, spacing, marks_intercalate, marks_spaced rfl, same, ← marks_intercalate,
      intercalate_splitBars, marks_trim]
  · have parts := splitBars_writtenMembers (fun m hm => (each m hm).1) separate
    have count : (splitBars 0 (writtenMembers members)).length
        = (splitBars 0 (Text.trim cs)).length := by
      have ours := congrArg List.length parts
      have theirs := congrArg List.length same
      simp only [List.length_map] at ours theirs
      exact ours.trans theirs
    rw [written_union] at trimmed
    rw [written_union, read_several (by rw [trimmed, count]; exact several), trimmed,
      mapM_read parts fun m hm ds written => ?_]
    · rfl
    · rw [read_congr (written.trans (Text.trim_of_tight (each m hm).1).symm), (each m hm).2]

/-- The notation of a type says the same as the text that the type was read off. -/
theorem rewrites_of_read {cs : List Char} {t : WireType} (h : read cs = .ok t) : Rewrites cs t := by
  have shorter := Text.length_trim_le cs
  have nonempty : Text.trim cs ≠ [] := by
    intro empty
    rw [read_blank empty] at h
    cases h
  rcases splitBars_alone_or_several (Text.trim cs) with alone | several
  · have whole := h
    rw [read_alone nonempty alone] at h
    cases inside : bracketed? (Text.trim cs) with
    | none =>
      rw [inside] at h
      exact .word nonempty h whole
    | some inner =>
      rw [inside] at h
      obtain ⟨element, inner', rfl⟩ := of_map_ok h
      have less := length_lt_of_bracketed? inside
      exact .array (eq_of_bracketed? inside) alone (rewrites_of_read inner')
  · rw [read_several several] at h
    obtain ⟨members, parts, rfl⟩ := of_map_ok h
    obtain ⟨same, each⟩ := rewrites_of_mapM parts fun part hp t read => by
      have less := length_lt_of_mem_splitBars hp several
      exact rewrites_of_read read
    exact .union several same each
termination_by cs.length
decreasing_by
  all_goals omega

/-- Every type that was read off notation is read back from its own. -/
theorem readable_of_ofNotation {text : String} {t : WireType} (h : ofNotation text = .ok t) :
    t.Readable := by
  have rewrites := rewrites_of_read h
  unfold Readable ofNotation notationOf
  rw [String.toList_ofList]
  exact rewrites.reads

end ApiReference.WireType
