import ApiReference.Proofs.Snapshot.Requests

/-!
One file put in its place, and taken out again. `commit_spec` says all that a commit can do and
why it may fail; `rollback_spec` says what a rollback restores.
-/

namespace ApiReference

open Surroundings

/-- The three names of a file can be used in a directory, and they differ. -/
structure Batch.Ready (dir : Path) (name : String) : Prop where
  target : dir.IsUsable name
  temp : dir.IsUsable (tempName name)
  backup : dir.IsUsable (backupName name)

namespace Batch

variable {w out : Surroundings} {dir : Path} {d : Place} {name : String}

theorem ne_tempName (name : String) : name ≠ tempName name := by
  intro h
  have lists := congrArg (fun s : String => s.toList.length) h
  simp only [toList_tempName, List.length_cons, List.length_append, List.length_nil] at lists
  omega

theorem ne_backupName (name : String) : name ≠ backupName name := by
  intro h
  have lists := congrArg (fun s : String => s.toList.length) h
  simp only [toList_backupName, List.length_cons, List.length_append, List.length_nil] at lists
  omega

/-- The names that a file uses. -/
def namesOf (name : String) : List String := [name, tempName name, backupName name]

/-- A file is in its place: the target holds what was staged, and the backup holds what the target
held. If that was nothing, something may be left at the backup: a directory, or what the one
refusal kept from being removed. -/
structure Placed (d : Place) (name : String) (w out : Surroundings) : Prop where
  staged : ∃ content, w.files.under d (tempName name) = some (.file content) ∧
    out.files.under d name = some (.file content)
  temp : out.files.under d (tempName name) = none
  saved : ∀ content, w.files.under d name = some (.file content) →
    out.files.under d (backupName name) = some (.file content)
  unsaved : w.files.under d name = none →
    out.files.under d (backupName name) = none ∨
      (out.files.under d (backupName name) = w.files.under d (backupName name) ∧
        (w.files.under d (backupName name) = some .directory ∨ Spent w out))

/-- A file is not in its place: its target and what is staged are as they were. -/
structure Unplaced (d : Place) (name : String) (w out : Surroundings) : Prop where
  target : out.files.under d name = w.files.under d name
  temp : out.files.under d (tempName name) = w.files.under d (tempName name)
  reason : Spent w out ∨
    (w.files.under d (backupName name) = some .directory ∧ w.files.under d name ≠ none) ∨
    w.files.under d (tempName name) = none
  backup : w.isArmed = false → w.files.under d (backupName name) ≠ some .directory →
    out.files.under d (backupName name) = none

theorem isThere_run (h : w.files.LeadsTo dir d) (u : dir.IsUsable name) :
    (Files.isThere (dir.join name) : StateM Surroundings Bool).run w =
      ((w.files.under d name).isSome, w) := by
  rw [← FileTree.isThere_join h u]
  rfl

/-- A target that holds a file is moved to its backup. -/
theorem saveTarget_spec (h : w.files.LeadsTo dir d) (ready : Ready dir name)
    (target : w.files.under d name ≠ some .directory) {r : Except Error Unit}
    (run : (saveTarget (Staged.of dir name) : StateM Surroundings _).run w = (r, out)) :
    (w.files.under d name = none ∧ r = .ok () ∧ out = w) ∨
      (w.files.under d name ≠ none ∧ Touches dir d [name, backupName name] w out ∧
        ((r = .ok () ∧ Moved d name (backupName name) w out) ∨
          ((∃ e, r = .error e) ∧ Stayed d name (backupName name) w out))) := by
  rw [saveTarget, staged_of, run_bind] at run
  simp only [isThere_run h ready.target] at run
  cases hx : w.files.under d name with
  | none =>
    rw [hx] at run
    cases run
    exact .inl ⟨rfl, rfl, rfl⟩
  | some e =>
    simp only [hx, Option.isSome_some, ↓reduceIte, run_bind] at run
    obtain ⟨⟨q, w₁⟩, h₁⟩ : ∃ o, (Files.rename (dir.join name) (dir.join (backupName name)) :
      StateM Surroundings _).run w = o := ⟨_, rfl⟩
    rw [h₁] at run
    obtain ⟨touch, outcome⟩ := rename_spec h ready.target ready.backup (ne_backupName name)
      (fun hd => absurd hd target) h₁
    refine .inr ⟨by simp, ?_⟩
    rcases outcome with ⟨rfl, moved⟩ | ⟨⟨fault, rfl⟩, stayed⟩
    · cases run
      exact ⟨touch, .inl ⟨rfl, moved⟩⟩
    · cases run
      exact ⟨touch, .inr ⟨⟨_, rfl⟩, stayed⟩⟩

/-- Without a refusal, what is at the backup is moved back to the target. -/
theorem putBack_spec (h : w.files.LeadsTo dir d) (ready : Ready dir name)
    (idle : w.isArmed = false) {content : ByteArray}
    (backup : w.files.under d (backupName name) = some (.file content))
    (target : w.files.under d name ≠ some .directory)
    (run : ((Files.rename (dir.join (backupName name)) (dir.join name) :
      StateM Surroundings _).run w).2 = out) :
    Touches dir d [backupName name, name] w out ∧
      out.files.under d name = some (.file content) ∧
      out.files.under d (backupName name) = none := by
  obtain ⟨q, full⟩ : ∃ q, (Files.rename (dir.join (backupName name)) (dir.join name) :
      StateM Surroundings _).run w = (q, out) := ⟨_, Prod.ext rfl run⟩
  have noDirectory : w.files.under d (backupName name) ≠ some .directory := by simp [backup]
  obtain ⟨touch, outcome⟩ := rename_spec h ready.backup ready.target (ne_backupName name).symm
    (fun hd => absurd hd noDirectory) full
  refine ⟨touch, ?_⟩
  rcases outcome with ⟨-, moved⟩ | ⟨-, stayed⟩
  · obtain ⟨old, held, put⟩ := moved.put
    rw [backup] at held
    cases held
    exact ⟨put, moved.gone⟩
  · rcases stayed.reason with spent | ⟨-, none | some | some⟩
    · exact absurd idle spent.armed
    · rw [backup] at none
      cases none
    · exact absurd some noDirectory
    · exact absurd some target

/-- The second half of a commit: what is staged is put in its place, or else what was there before
is put back. -/
def place (f : Staged) : StateM Surroundings (Except Error Unit) := do
  match ← Files.rename f.temp f.target with
  | .ok () => return .ok ()
  | .error fault =>
    if ← Files.isThere f.backup then
      let _ ← Files.rename f.backup f.target
    return .error (fault.at f.target)

theorem commit_eq (f : Staged) : (commit f : StateM Surroundings _) = (do
    let _ ← Files.remove f.backup
    match ← saveTarget f with
    | .error e => return .error e
    | .ok () => place f) := rfl

/-- What the second half of a commit does when nothing is at the target. -/
theorem place_spec (h : w.files.LeadsTo dir d) (ready : Ready dir name)
    (target : w.files.under d name = none)
    (temp : (∃ content, w.files.under d (tempName name) = some (.file content)) ∨
      (w.files.under d (tempName name) = none ∧ w.isArmed = false ∧
        w.files.under d (backupName name) ≠ some .directory))
    (backup : w.files.under d (backupName name) = some .directory → w.isArmed = false)
    {r : Except Error Unit} (run : (place (Staged.of dir name)).run w = (r, out)) :
    Touches dir d (namesOf name) w out ∧
      ((r = .ok () ∧ Moved d (tempName name) name w out ∧
          out.files.under d (backupName name) = w.files.under d (backupName name)) ∨
        ((∃ e, r = .error e) ∧
          out.files.under d name = w.files.under d (backupName name) ∧
          out.files.under d (tempName name) = w.files.under d (tempName name) ∧
          out.files.under d (backupName name) = none ∧
          (Spent w out ∨ w.files.under d (tempName name) = none))) := by
  have nt := ne_tempName name
  have nb := ne_backupName name
  have tb := tempName_ne_backupName name name
  rw [place, staged_of, run_bind] at run
  simp only at run
  obtain ⟨⟨q, w₁⟩, h₁⟩ : ∃ o, (Files.rename (dir.join (tempName name)) (dir.join name) :
    StateM Surroundings _).run w = o := ⟨_, rfl⟩
  rw [h₁] at run
  have notDirectory : w.files.under d (tempName name) ≠ some .directory := by
    rcases temp with ⟨content, ht⟩ | ⟨ht, -⟩ <;> simp [ht]
  obtain ⟨touch, outcome⟩ := rename_spec h ready.temp ready.target nt.symm
    (fun hd => absurd hd notDirectory) h₁
  have sub : ∀ n ∈ [tempName name, name], n ∈ namesOf name := by simp [namesOf]
  have kept : w₁.files.under d (backupName name) = w.files.under d (backupName name) :=
    touch.under (by simp [tb.symm, nb.symm])
  rcases outcome with ⟨rfl, moved⟩ | ⟨⟨fault, rfl⟩, stayed⟩
  · cases run
    exact ⟨touch.mono sub, .inl ⟨rfl, moved, kept⟩⟩
  · -- The rename failed: no refusal is to come any more, and the backup is no directory.
    have reason : Spent w w₁ ∨ w.files.under d (tempName name) = none := by
      rcases stayed.reason with spent | ⟨-, ht | ht | ht⟩
      · exact .inl spent
      · exact .inr ht
      · exact absurd ht notDirectory
      · rw [target] at ht
        cases ht
    have calm : w₁.isArmed = false := by
      rcases reason with spent | missing
      · exact spent.2
      · rcases temp with ⟨content, ht⟩ | ⟨-, calm, -⟩
        · rw [missing] at ht
          cases ht
        · exact touch.idle calm
    have noBackup : w.files.under d (backupName name) ≠ some .directory := by
      intro hd
      rcases reason with spent | missing
      · exact spent.armed (backup hd)
      · rcases temp with ⟨content, ht⟩ | ⟨-, -, hn⟩
        · rw [missing] at ht
          cases ht
        · exact hn hd
    simp only [run_bind, isThere_run touch.leads ready.backup, kept] at run
    rcases h.under_cases (backupName name) with hb | hb | ⟨content, hb⟩
    · rw [hb] at run
      cases run
      refine ⟨touch.mono sub, .inr ⟨⟨_, rfl⟩, ?_, stayed.source, kept.trans hb, reason⟩⟩
      rw [stayed.target, target, hb]
    · exact absurd hb noBackup
    · simp only [hb, Option.isSome_some, ↓reduceIte, run_bind] at run
      have target₁ : w₁.files.under d name ≠ some .directory := by
        rw [stayed.target, target]
        simp
      obtain ⟨back, put, gone⟩ := putBack_spec touch.leads ready calm (kept.trans hb) target₁ rfl
      cases run
      refine ⟨(touch.trans back).mono (by simp [namesOf]), .inr ⟨⟨_, rfl⟩, ?_, ?_, gone, ?_⟩⟩
      · rw [put, hb]
      · rw [back.under (by simp [tb, nt.symm]), stayed.source]
      · exact reason.imp_left fun spent => spent.followed back

/-- What a commit may be begun with: no directory at the target, a staged content unless no
request is to be refused, and no directory at the backup if one is. -/
structure Committable (d : Place) (name : String) (w : Surroundings) : Prop where
  target : w.files.under d name ≠ some .directory
  temp : (∃ content, w.files.under d (tempName name) = some (.file content)) ∨
    (w.files.under d (tempName name) = none ∧ w.isArmed = false ∧ w.files.under d name ≠ none)
  backup : w.files.under d (backupName name) = some .directory → w.isArmed = false

/-- What removing an old backup leaves. -/
private def Cleared (d : Place) (name : String) (w w₁ : Surroundings) : Prop :=
  (w₁.files.under d (backupName name) = none ∧
      w.files.under d (backupName name) ≠ some .directory ∧ w₁.isArmed = w.isArmed) ∨
    (w₁.files.under d (backupName name) = w.files.under d (backupName name) ∧
      (w.files.under d (backupName name) = some .directory ∨ Spent w w₁))

/-- The rest of a commit whose target holds nothing. -/
private theorem commit_absent {w₁ : Surroundings} (ready : Ready dir name)
    (begun : Committable d name w) (touch : Touches dir d [backupName name] w w₁)
    (cleared : Cleared d name w w₁) (absent : w.files.under d name = none)
    {r : Except Error Unit} (run : (place (Staged.of dir name)).run w₁ = (r, out)) :
    Touches dir d (namesOf name) w out ∧
      ((r = .ok () ∧ Placed d name w out) ∨ ((∃ e, r = .error e) ∧ Unplaced d name w out)) := by
  have target₁ : w₁.files.under d name = none := by
    rw [touch.under (by simp [ne_backupName]), absent]
  have same : w₁.files.under d (tempName name) = w.files.under d (tempName name) :=
    touch.under (by simp [tempName_ne_backupName])
  obtain ⟨content, staged⟩ : ∃ content, w.files.under d (tempName name) = some (.file content) :=
    begun.temp.resolve_right fun missing => missing.2.2 absent
  have calm (hd : w₁.files.under d (backupName name) = some .directory) :
      w₁.isArmed = false :=
    touch.idle (begun.backup (touch.under_directory.mp hd))
  obtain ⟨last, outcome⟩ := place_spec touch.leads ready target₁
    (.inl ⟨content, same.trans staged⟩) calm run
  refine ⟨(touch.trans last).mono (by simp [namesOf]), ?_⟩
  rcases outcome with ⟨rfl, moved, kept⟩ | ⟨failed, back, temp, gone, reason⟩
  · refine .inl ⟨rfl, ?_, moved.gone, fun old held => ?_, fun _ => ?_⟩
    · rw [← same]
      exact moved.put
    · rw [absent] at held
      cases held
    · rcases cleared with ⟨none, -, -⟩ | ⟨left, reason⟩
      · exact .inl (kept.trans none)
      · exact .inr ⟨kept.trans left, reason.imp_right fun spent => spent.followed last⟩
  · -- Only the refusal can make it fail, so the old backup has been removed before.
    have spent : Spent w₁ out := by
      refine reason.resolve_right fun missing => ?_
      rw [same, staged] at missing
      cases missing
    have none : w₁.files.under d (backupName name) = none := by
      rcases cleared with ⟨none, -, -⟩ | ⟨left, hd | early⟩
      · exact none
      · exact absurd (calm (left.trans hd)) spent.armed
      · exact absurd early.2 spent.armed
    exact .inr ⟨failed, by rw [back, none, absent], temp.trans same,
      .inl (spent.preceded touch), fun _ _ => gone⟩

/-- The rest of a commit whose target has been moved to the backup. -/
private theorem commit_saved {w₁ w₂ : Surroundings} (ready : Ready dir name)
    (begun : Committable d name w) (touch : Touches dir d [backupName name] w w₁)
    (save : Touches dir d [name, backupName name] w₁ w₂)
    (moved : Moved d name (backupName name) w₁ w₂)
    {r : Except Error Unit} (run : (place (Staged.of dir name)).run w₂ = (r, out)) :
    Touches dir d (namesOf name) w out ∧
      ((r = .ok () ∧ Placed d name w out) ∨ ((∃ e, r = .error e) ∧ Unplaced d name w out)) := by
  have whole := touch.trans save
  have same : w₂.files.under d (tempName name) = w.files.under d (tempName name) :=
    whole.under (by simp [tempName_ne_backupName, (ne_tempName name).symm])
  obtain ⟨old, held, kept⟩ := moved.put
  have held : w.files.under d name = some (.file old) := by
    rw [← held, touch.under (by simp [ne_backupName])]
  have noDirectory : w₂.files.under d (backupName name) ≠ some .directory := by simp [kept]
  have temp : (∃ content, w₂.files.under d (tempName name) = some (.file content)) ∨
      (w₂.files.under d (tempName name) = none ∧ w₂.isArmed = false ∧
        w₂.files.under d (backupName name) ≠ some .directory) := by
    rw [same]
    exact begun.temp.imp_right fun ⟨missing, idle, _⟩ => ⟨missing, whole.idle idle, noDirectory⟩
  obtain ⟨last, outcome⟩ := place_spec save.leads ready moved.gone temp
    (fun hd => absurd hd noDirectory) run
  refine ⟨(whole.trans last).mono (by simp [namesOf]), ?_⟩
  rcases outcome with ⟨rfl, put, left⟩ | ⟨failed, back, left, gone, reason⟩
  · refine .inl ⟨rfl, ?_, put.gone, fun content was => ?_, fun was => ?_⟩
    · rw [← same]
      exact put.put
    · rw [left, kept, ← held, was]
    · rw [held] at was
      cases was
  · refine .inr ⟨failed, by rw [back, kept, held], left.trans same, ?_, fun _ _ => gone⟩
    rcases reason with spent | missing
    · exact .inl (spent.preceded whole)
    · exact .inr (.inr (same ▸ missing))

/-- A commit puts its file in place and keeps a backup, or it leaves everything as it was. -/
theorem commit_spec (h : w.files.LeadsTo dir d) (ready : Ready dir name)
    (begun : Committable d name w) {r : Except Error Unit}
    (run : (commit (Staged.of dir name) : StateM Surroundings _).run w = (r, out)) :
    Touches dir d (namesOf name) w out ∧
      ((r = .ok () ∧ Placed d name w out) ∨ ((∃ e, r = .error e) ∧ Unplaced d name w out)) := by
  rw [commit_eq, run_bind] at run
  obtain ⟨w₁, h₁⟩ : ∃ o, ((Files.remove (Staged.of dir name).backup :
    StateM Surroundings _).run w).2 = o := ⟨_, rfl⟩
  rw [h₁, run_bind] at run
  obtain ⟨touch, cleared⟩ := remove_spec h ready.backup h₁
  have target₁ : w₁.files.under d name = w.files.under d name :=
    touch.under (by simp [ne_backupName])
  obtain ⟨⟨q, w₂⟩, h₂⟩ : ∃ o, (saveTarget (Staged.of dir name) : StateM Surroundings _).run w₁ = o :=
    ⟨_, rfl⟩
  rw [h₂] at run
  rcases saveTarget_spec touch.leads ready (by rw [target₁]; exact begun.target) h₂ with
    ⟨absent, rfl, rfl⟩ | ⟨present, save, ⟨rfl, moved⟩ | ⟨⟨e, rfl⟩, stayed⟩⟩
  · exact commit_absent ready begun touch cleared (target₁ ▸ absent) run
  · exact commit_saved ready begun touch save moved run
  · cases run
    have whole := touch.trans save
    refine ⟨whole.mono (by simp [namesOf]), .inr ⟨⟨e, rfl⟩, stayed.source.trans target₁, ?_, ?_, ?_⟩⟩
    · exact whole.under (by simp [tempName_ne_backupName, (ne_tempName name).symm])
    · rcases stayed.reason with spent | ⟨-, none | some | some⟩
      · exact .inl (spent.preceded touch)
      · exact absurd none present
      · exact absurd (target₁ ▸ some) begun.target
      · exact .inr (.inl ⟨touch.under_directory.mp some, target₁ ▸ present⟩)
    · intro idle noDirectory
      rcases stayed.reason with spent | ⟨-, none | some | some⟩
      · exact absurd idle (spent.preceded touch).armed
      · exact absurd none present
      · exact absurd (target₁ ▸ some) begun.target
      · exact absurd (touch.under_directory.mp some) noDirectory

/-- What a rollback leaves at a target, from what is at the backup and at the target. A directory
at the backup cannot take the place of a file. -/
def restored : Option FileEntry → Option FileEntry → Option FileEntry
  | none, _ => none
  | some .directory, target => target
  | some backup, _ => some backup

/-- A rollback moves the backup over the target, or removes the target if there is no backup. -/
theorem rollback_spec (h : w.files.LeadsTo dir d) (ready : Ready dir name)
    (idle : w.isArmed = false) (target : ∃ content, w.files.under d name = some (.file content))
    (run : ((rollback (Staged.of dir name) : StateM Surroundings _).run w).2 = out) :
    Touches dir d [name, backupName name] w out ∧
      out.files.under d name =
        restored (w.files.under d (backupName name)) (w.files.under d name) ∧
      (w.files.under d (backupName name) ≠ some .directory →
        out.files.under d (backupName name) = none) := by
  obtain ⟨new, hn⟩ := target
  rw [rollback, staged_of, run_bind] at run
  simp only [isThere_run h ready.backup] at run
  rcases h.under_cases (backupName name) with hb | hb | ⟨old, hb⟩
  · simp only [hb, Option.isSome_none, Bool.false_eq_true, ↓reduceIte, run_bind] at run
    obtain ⟨touch, outcome⟩ := remove_spec h ready.target run
    have kept : out.files.under d (backupName name) = none := by
      rw [touch.under (by simp [(ne_backupName name).symm]), hb]
    rcases outcome with ⟨gone, -, -⟩ | ⟨-, hd | spent⟩
    · exact ⟨touch.mono (by simp), by rw [gone, hb]; rfl, fun _ => kept⟩
    · rw [hn] at hd
      cases hd
    · exact absurd idle spent.armed
  · simp only [hb, Option.isSome_some, ↓reduceIte, run_bind] at run
    obtain ⟨⟨q, w₁⟩, h₁⟩ : ∃ o, (Files.rename (dir.join (backupName name)) (dir.join name) :
      StateM Surroundings _).run w = o := ⟨_, rfl⟩
    rw [h₁] at run
    change w₁ = out at run
    subst run
    obtain ⟨touch, outcome⟩ := rename_spec h ready.backup ready.target (ne_backupName name).symm
      (fun _ => ⟨new, hn⟩) h₁
    refine ⟨touch.mono (by simp), ?_, fun free => absurd hb free⟩
    rcases outcome with ⟨-, moved⟩ | ⟨-, stayed⟩
    · obtain ⟨old, held, -⟩ := moved.put
      rw [hb] at held
      cases held
    · rw [stayed.target, hb, restored]
  · simp only [hb, Option.isSome_some, ↓reduceIte, run_bind] at run
    obtain ⟨touch, put, gone⟩ := putBack_spec h ready idle hb (by simp [hn]) run
    exact ⟨touch.mono (by simp), by rw [put, hb]; rfl, fun _ => gone⟩

end Batch

end ApiReference
