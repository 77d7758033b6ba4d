import ApiReference.Bindings.Doc
import ApiReference.Proofs.Text.Split

/-!
The lines of documentation comments: each starts with the marks of a comment after its indentation,
and stays one line, whatever characters of white space end lines.
-/

namespace ApiReference.Doc

/-- Whether a line is one of documentation with an indentation. -/
def IsComment (indent : String) (line : String) : Prop :=
  ∃ text : List Char, line.toList = indent.toList ++ '/' :: text ∧ '\n' ∉ text

/-- Whether a line holds the marks of documentation after its indentation, and then no white space
but spaces. -/
def IsDocumentation (indent : String) (line : String) : Prop :=
  ∃ text : List Char, line.toList = indent.toList ++ "///".toList ++ text ∧
    ∀ c ∈ text, c = ' ' ∨ Text.isBlank c = false

theorem IsDocumentation.isComment {indent line : String} (h : IsDocumentation indent line) :
    IsComment indent line := by
  obtain ⟨text, whole, plain⟩ := h
  refine ⟨"//".toList ++ text, by simp [whole], ?_⟩
  have oneLine : '\n' ∉ text := by
    intro feed
    rcases plain _ feed with space | visible
    · cases space
    · cases visible
  simp [oneLine]

/-- Lines are filled with spaces and the characters of the words. -/
theorem forall_mem_fill {P : Char → Prop} (space : P ' ') {width : Nat} {current : List Char}
    {words : List (List Char)} (start : ∀ c ∈ current, P c) (each : ∀ w ∈ words, ∀ c ∈ w, P c) :
    ∀ line ∈ fill width current words, ∀ c ∈ line, P c := by
  fun_induction fill width current words with
  | case1 current =>
    intro line h
    rw [List.mem_singleton.mp h]
    exact start
  | case2 current word rest _ ih =>
    obtain ⟨first, later⟩ := List.forall_mem_cons.mp each
    exact ih first later
  | case3 current word rest _ _ ih =>
    obtain ⟨first, later⟩ := List.forall_mem_cons.mp each
    exact List.forall_mem_cons.mpr ⟨start, ih first later⟩
  | case4 current word rest _ _ ih =>
    obtain ⟨first, later⟩ := List.forall_mem_cons.mp each
    refine ih (fun c hc => ?_) later
    rcases List.mem_append.mp hc with before | after
    · exact start c before
    · rcases List.mem_cons.mp after with rfl | among
      · exact space
      · exact first c among

theorem isDocumentation_of_mem_commentLine {indent : String} {line text : List Char}
    (h : line ∈ commentLine indent.toList text) : IsDocumentation indent (String.ofList line) := by
  unfold commentLine at h
  dsimp only at h
  split at h
  · rw [List.mem_singleton] at h
    exact ⟨[], by simp [h], by simp⟩
  · obtain ⟨filled, among, rfl⟩ := List.mem_map.mp h
    refine ⟨' ' :: filled, by simp, ?_⟩
    have plain : ∀ c ∈ filled, c = ' ' ∨ Text.isBlank c = false :=
      forall_mem_fill (P := fun c => c = ' ' ∨ Text.isBlank c = false) (.inl rfl) (by simp)
        (fun w hw c hc => .inr (Text.isBlank_of_mem_words hw c hc)) filled among
    exact List.forall_mem_cons.mpr ⟨.inl rfl, plain⟩

theorem isDocumentation_of_mem_comment {text indent line : String} (h : line ∈ comment text indent) :
    IsDocumentation indent line := by
  obtain ⟨made, among, rfl⟩ := List.mem_map.mp h
  unfold commentLines at among
  dsimp only at among
  split at among
  · cases among
  · obtain ⟨part, _, among⟩ := List.mem_flatMap.mp among
    exact isDocumentation_of_mem_commentLine among

theorem isDocumentation_of_mem_entry {description notes indent line : String}
    (h : line ∈ entry description notes indent) : IsDocumentation indent line := by
  unfold entry at h
  dsimp only at h
  split at h
  · exact isDocumentation_of_mem_comment h
  · rcases List.mem_append.mp h with before | after
    · rcases List.mem_append.mp before with first | between
      · exact isDocumentation_of_mem_comment first
      · split at between
        · cases between
        · rw [List.mem_singleton.mp between]
          exact ⟨[], by simp, by simp⟩
    · exact isDocumentation_of_mem_comment after

theorem isComment_of_mem_comment {text indent line : String} (h : line ∈ comment text indent) :
    IsComment indent line :=
  (isDocumentation_of_mem_comment h).isComment

theorem isComment_of_mem_entry {description notes indent line : String}
    (h : line ∈ entry description notes indent) : IsComment indent line :=
  (isDocumentation_of_mem_entry h).isComment

end ApiReference.Doc
