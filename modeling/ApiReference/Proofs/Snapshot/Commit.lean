import ApiReference.Proofs.Snapshot.Stage

/-!
The commits of a batch. What holds between them is `Swapped`: each name that was committed is
placed, and everything else is as it was. From there the commits run through, or they are undone;
`commitAll_spec` says when that brings back every target, which is not always.
-/

namespace ApiReference

open Surroundings

namespace Batch

variable {w w₀ w' out : Surroundings} {dir : Path} {d : Place} {names : List String}

theorem PlainNames.sublist {more : List String} (h : PlainNames more)
    (sub : ∀ n ∈ names, n ∈ more) : PlainNames names :=
  ⟨fun n hn => h.fileName n (sub n hn), fun n hn m hm => h.temp n (sub n hn) m (sub m hm),
    fun n hn m hm => h.backup n (sub n hn) m (sub m hm)⟩

/-- Different plain names use different names beside them. -/
theorem PlainNames.apart (h : PlainNames names) {m n : String} (hm : m ∈ names) (hn : n ∈ names)
    (ne : m ≠ n) : ∀ x ∈ namesOf m, x ∉ namesOf n := by
  intro x hx
  simp only [namesOf, List.mem_cons, List.not_mem_nil, or_false] at hx
  simp only [namesOf, List.mem_cons, List.not_mem_nil, or_false, not_or]
  rcases hx with rfl | rfl | rfl
  · exact ⟨ne, h.temp x hm n hn, h.backup x hm n hn⟩
  · exact ⟨fun equal => h.temp n hn m hm equal.symm, fun equal => ne (tempName_injective equal),
      tempName_ne_backupName m n⟩
  · exact ⟨fun equal => h.backup n hn m hm equal.symm, (tempName_ne_backupName n m).symm,
      fun equal => ne (backupName_injective equal)⟩

theorem PlainNames.not_mem_flatMap (h : PlainNames names) {m : String} {some : List String}
    (hm : m ∈ names) (sub : ∀ n ∈ some, n ∈ names) (other : m ∉ some) :
    ∀ x ∈ namesOf m, x ∉ some.flatMap namesOf := by
  intro x hx again
  obtain ⟨n, hn, used⟩ := List.mem_flatMap.mp again
  exact h.apart hm (sub n hn) (fun equal => other (equal ▸ hn)) x hx used

/-- A batch whose contents are staged and whose targets are no directories. A name may be there
twice, and a directory at a backup, only if no request is to be refused. -/
structure Poised (dir : Path) (d : Place) (names : List String) (w : Surroundings) : Prop where
  leads : w.files.LeadsTo dir d
  plain : PlainNames names
  ready : ∀ n ∈ names, Ready dir n
  target : ∀ n ∈ names, w.files.under d n ≠ some .directory
  temp : ∀ n ∈ names, ∃ content, w.files.under d (tempName n) = some (.file content)
  backup : ∀ n ∈ names, w.files.under d (backupName n) = some .directory → w.isArmed = false
  distinct : names.Nodup ∨ w.isArmed = false

/-- Between two commits: the names committed so far are placed, all else is as it was. -/
structure Swapped (dir : Path) (d : Place) (done : List String) (w₀ w : Surroundings) :
    Prop where
  touches : Touches dir d (done.flatMap namesOf) w₀ w
  nodup : done.Nodup
  placed : ∀ n ∈ done, Placed d n w₀ w

/-- A name that cannot be committed after others: it was committed before, or a directory keeps
what it holds from being moved away. -/
def Clash (t : FileTree) (d : Place) (before : List String) (name : String) : Prop :=
  name ∈ before ∨
    (t.under d (backupName name) = some .directory ∧ t.under d name ≠ none)

/-- Whether the targets are as before once commits are undone because of a clash: no directory is
in the way of a rollback, and a name that clashes with itself had held nothing. -/
def Undoable (t : FileTree) (d : Place) (before : List String) (name : String) : Prop :=
  (∀ n ∈ before, t.under d (backupName n) ≠ some .directory) ∧
    (name ∈ before → t.under d name = none)

/-- Whether the first clash that names come to, if there is one, can be undone. -/
def Harmless (t : FileTree) (d : Place) (before : List String) : List String → Prop
  | [] => True
  | name :: rest =>
    (Clash t d before name → Undoable t d before name) ∧
      (¬ Clash t d before name → Harmless t d (name :: before) rest)

/-- Different names without directories at their backups come to no clash. -/
theorem harmless_of_distinct {t : FileTree} {before rest : List String}
    (nodup : (rest ++ before).Nodup)
    (free : ∀ n ∈ rest, t.under d (backupName n) ≠ some .directory) :
    Harmless t d before rest := by
  induction rest generalizing before with
  | nil => trivial
  | cons name rest ih =>
    have fresh : name ∉ before := by
      have := (List.nodup_cons.mp nodup).1
      exact fun hb => this (List.mem_append_right _ hb)
    refine ⟨fun clash => ?_, fun _ => ih ?_ fun n hn => free n (List.mem_cons_of_mem _ hn)⟩
    · rcases clash with again | ⟨hd, -⟩
      · exact absurd again fresh
      · exact absurd hd (free name List.mem_cons_self)
    · exact List.perm_middle.symm.nodup nodup

/-! ## Commits in a row -/

theorem Placed.of_same {name : String} (h : Placed d name w out) {v u : Surroundings}
    (before : ∀ x ∈ namesOf name, v.files.under d x = w.files.under d x)
    (after : ∀ x ∈ namesOf name, u.files.under d x = out.files.under d x)
    (spent : Spent w out → Spent v u) : Placed d name v u := by
  have name₁ := before name (by simp [namesOf])
  have temp₁ := before (tempName name) (by simp [namesOf])
  have backup₁ := before (backupName name) (by simp [namesOf])
  have name₂ := after name (by simp [namesOf])
  have temp₂ := after (tempName name) (by simp [namesOf])
  have backup₂ := after (backupName name) (by simp [namesOf])
  refine ⟨?_, temp₂.trans h.temp, ?_, ?_⟩
  · rw [temp₁, name₂]
    exact h.staged
  · rw [name₁, backup₂]
    exact h.saved
  · rw [name₁, backup₁, backup₂]
    exact fun absent => (h.unsaved absent).imp_right fun left => ⟨left.1, left.2.imp_right spent⟩

variable {done rest : List String} {name : String}

theorem Swapped.start (h : w₀.files.LeadsTo dir d) : Swapped dir d [] w₀ w₀ :=
  ⟨.refl h [], List.nodup_nil, fun _ hn => absurd hn List.not_mem_nil⟩

/-- What is committed is not staged any more. -/
theorem Swapped.not_mem_of_staged (h : Swapped dir d done w₀ w)
    (staged : ∃ content, w.files.under d (tempName name) = some (.file content)) :
    name ∉ done := by
  intro again
  obtain ⟨content, held⟩ := staged
  rw [(h.placed name again).temp] at held
  cases held

/-- What a name not yet committed uses is as before all commits. -/
theorem Swapped.same (h : Swapped dir d done w₀ w) (plain : PlainNames names)
    (sub : ∀ n ∈ done, n ∈ names) (hn : name ∈ names) (fresh : name ∉ done) :
    ∀ x ∈ namesOf name, w.files.under d x = w₀.files.under d x :=
  fun x hx => h.touches.under (plain.not_mem_flatMap hn sub fresh x hx)

/-- The next name can be committed, if only to fail. -/
theorem Swapped.committable (h : Swapped dir d done w₀ w) (poised : Poised dir d names w₀)
    (sub : ∀ n ∈ done, n ∈ names) (hn : name ∈ names)
    (distinct : name ∉ done ∨ w₀.isArmed = false) : Committable d name w := by
  have calm (hd : w.files.under d (backupName name) = some .directory) : w.isArmed = false :=
    h.touches.idle (poised.backup name hn (h.touches.under_directory.mp hd))
  have target : w.files.under d name ≠ some .directory :=
    fun hd => poised.target name hn (h.touches.under_directory.mp hd)
  by_cases again : name ∈ done
  · have placed := h.placed name again
    obtain ⟨content, -, put⟩ := placed.staged
    have idle := distinct.resolve_left fun fresh => fresh again
    exact ⟨target, .inr ⟨placed.temp, h.touches.idle idle, by simp [put]⟩, calm⟩
  · refine ⟨target, .inl ?_, calm⟩
    rw [h.same poised.plain sub hn again _ (by simp [namesOf])]
    exact poised.temp name hn

/-- One more commit. -/
theorem Swapped.next (h : Swapped dir d done w₀ w) (plain : PlainNames names)
    (sub : ∀ n ∈ done, n ∈ names) (hn : name ∈ names)
    (touch : Touches dir d (namesOf name) w w') (placed : Placed d name w w') :
    Swapped dir d (name :: done) w₀ w' ∧ ¬ Clash w₀.files d done name := by
  have fresh : name ∉ done := by
    obtain ⟨content, held, -⟩ := placed.staged
    exact h.not_mem_of_staged ⟨content, held⟩
  have same := h.same plain sub hn fresh
  refine ⟨⟨?_, List.nodup_cons.mpr ⟨fresh, h.nodup⟩, ?_⟩, ?_⟩
  · refine (h.touches.trans touch).mono fun x hx => ?_
    simp only [List.mem_append, List.flatMap_cons] at hx ⊢
    exact hx.symm
  · intro n hm
    rcases List.mem_cons.mp hm with rfl | earlier
    · exact placed.of_same (fun x hx => (same x hx).symm) (fun _ _ => rfl)
        fun spent => spent.preceded h.touches
    · have ne : n ≠ name := fun equal => fresh (equal ▸ earlier)
      refine (h.placed n earlier).of_same (fun _ _ => rfl) (fun x hx => ?_)
        fun spent => spent.followed touch
      exact touch.under (plain.apart (sub n earlier) hn ne x hx)
  · rintro (again | ⟨hd, present⟩)
    · exact fresh again
    · have here : w.files.under d (backupName name) = some .directory :=
        h.touches.under_directory.mpr hd
      have after := touch.under_directory.mpr here
      rw [← same name (by simp [namesOf])] at present
      rcases h.touches.leads.under_cases name with none | some | ⟨content, file⟩
      · exact present none
      · obtain ⟨content, -, put⟩ := placed.staged
        have stays := touch.under_directory.mpr some
        rw [put] at stays
        cases stays
      · rw [placed.saved content file] at after
        cases after

/-! ## Undoing commits -/

/-- Rollbacks restore each target from what is at its backup. -/
theorem rollbackAll_spec (h : w.files.LeadsTo dir d) (plain : PlainNames done)
    (nodup : done.Nodup) (ready : ∀ n ∈ done, Ready dir n) (idle : w.isArmed = false)
    (target : ∀ n ∈ done, ∃ content, w.files.under d n = some (.file content))
    (run : ((rollbackAll (stagedIn dir done) : StateM Surroundings _).run w).2 = out) :
    Touches dir d (done.flatMap namesOf) w out ∧ ∀ n ∈ done, out.files.under d n =
      restored (w.files.under d (backupName n)) (w.files.under d n) := by
  induction done generalizing w with
  | nil =>
    cases run
    exact ⟨.refl h _, fun _ hn => absurd hn List.not_mem_nil⟩
  | cons name rest ih =>
    obtain ⟨fresh, nodup⟩ := List.nodup_cons.mp nodup
    rw [stagedIn, List.map_cons, rollbackAll, run_bind] at run
    obtain ⟨w₁, h₁⟩ : ∃ o, ((rollback (Staged.of dir name) : StateM Surroundings _).run w).2 = o :=
      ⟨_, rfl⟩
    rw [h₁] at run
    obtain ⟨touch, back, -⟩ := rollback_spec h (ready name List.mem_cons_self) idle
      (target name List.mem_cons_self) h₁
    have apart (n : String) (hn : n ∈ rest) : ∀ x ∈ namesOf n,
        w₁.files.under d x = w.files.under d x := by
      intro x hx
      refine touch.under fun used => ?_
      refine plain.apart (List.mem_cons_of_mem _ hn) List.mem_cons_self
        (fun equal => fresh (equal ▸ hn)) x hx ?_
      simp only [namesOf, List.mem_cons, List.not_mem_nil, or_false] at used ⊢
      exact used.imp_right .inr
    have later := ih touch.leads (plain.sublist fun n hn => List.mem_cons_of_mem _ hn) nodup
      (fun n hn => ready n (List.mem_cons_of_mem _ hn)) (touch.idle idle)
      (fun n hn => by
        rw [apart n hn n (by simp [namesOf])]
        exact target n (List.mem_cons_of_mem _ hn)) run
    obtain ⟨more, restores⟩ := later
    refine ⟨(touch.trans more).mono fun x hx => ?_, fun n hn => ?_⟩
    · rw [List.flatMap_cons, List.mem_append]
      refine (List.mem_append.mp hx).imp_left fun used => ?_
      simp only [namesOf, List.mem_cons, List.not_mem_nil, or_false] at used ⊢
      exact used.imp_right .inr
    rcases List.mem_cons.mp hn with rfl | later
    · have untouched := plain.not_mem_flatMap List.mem_cons_self
        (fun m hm => List.mem_cons_of_mem n hm) fresh n (by simp [namesOf])
      rw [more.under untouched, back]
    · rw [restores n later, apart n later _ (by simp [namesOf]),
        apart n later _ (by simp [namesOf])]

/-- A placed name is restored unless a directory is at its backup. -/
theorem Placed.restored_eq (h : Placed d name w₀ w) (leads : w₀.files.LeadsTo dir d)
    (target : w₀.files.under d name ≠ some .directory)
    (free : w₀.files.under d (backupName name) ≠ some .directory) (quiet : ¬ Spent w₀ w) :
    restored (w.files.under d (backupName name)) (w.files.under d name) =
      w₀.files.under d name := by
  rcases leads.under_cases name with none | some | ⟨content, file⟩
  · rcases h.unsaved none with gone | ⟨-, hd | spent⟩
    · rw [gone, none]
      rfl
    · exact absurd hd free
    · exact absurd spent quiet
  · exact absurd some target
  · rw [h.saved content file, file]
    rfl

/-- A directory at the backup of a placed name keeps the new content in its place. -/
theorem Placed.restored_ne (h : Placed d name w₀ w) {more : List String}
    (leads : w₀.files.LeadsTo dir d) (touch : Touches dir d more w₀ w)
    (target : w₀.files.under d name ≠ some .directory)
    (blocked : w₀.files.under d (backupName name) = some .directory) :
    w₀.files.under d name = none ∧ w.files.under d name ≠ none := by
  obtain ⟨content, -, put⟩ := h.staged
  refine ⟨?_, by simp [put]⟩
  rcases leads.under_cases name with none | some | ⟨old, file⟩
  · exact none
  · exact absurd some target
  · have stays := touch.under_directory.mpr blocked
    rw [h.saved old file] at stays
    cases stays

/-- What is undone after a commit that failed. -/
structure Undone (dir : Path) (d : Place) (done names : List String) (w' out : Surroundings) :
    Prop where
  restored : ∀ n ∈ done, out.files.under d n =
    restored (w'.files.under d (backupName n)) (w'.files.under d n)
  same : ∀ n ∈ names, n ∉ done → out.files.under d n = w'.files.under d n

/-- Undoing rolls back what is committed and drops what is only staged. -/
theorem undo_spec {r : Except Error Unit} {e : Error} (h : w.files.LeadsTo dir d)
    (plain : PlainNames names) (ready : ∀ n ∈ names, Ready dir n)
    (sub : ∀ n ∈ rest ++ done, n ∈ names) (nodup : done.Nodup) (idle : w.isArmed = false)
    (target : ∀ n ∈ done, ∃ content, w.files.under d n = some (.file content))
    (run : (do
        rollbackAll (stagedIn dir done)
        discard (stagedIn dir rest)
        pure (Except.error e) : StateM Surroundings _).run w = (r, out)) :
    r = .error e ∧ Touches dir d (names.flatMap namesOf) w out ∧
      Undone dir d done names w out := by
  have subDone : ∀ n ∈ done, n ∈ names := fun n hd => sub n (List.mem_append_right _ hd)
  have subRest : ∀ n ∈ rest, n ∈ names := fun n hr => sub n (List.mem_append_left _ hr)
  rw [run_bind, discard_eq, run_bind] at run
  obtain ⟨w₁, h₁⟩ : ∃ o, ((rollbackAll (stagedIn dir done) : StateM Surroundings _).run w).2 = o :=
    ⟨_, rfl⟩
  rw [h₁] at run
  obtain ⟨w₂, h₂⟩ : ∃ o, ((removeNames dir (rest.map tempName)).run w₁).2 = o := ⟨_, rfl⟩
  rw [h₂] at run
  cases run
  obtain ⟨back, restores⟩ := rollbackAll_spec h (plain.sublist subDone) nodup
    (fun n hd => ready n (subDone n hd)) idle target h₁
  obtain ⟨removed, -⟩ := removeNames_spec back.leads (fun x hx => by
    obtain ⟨n, hr, rfl⟩ := List.mem_map.mp hx
    exact (ready n (subRest n hr)).temp) h₂
  have untouched : ∀ n ∈ names, out.files.under d n = w₁.files.under d n := by
    intro n hm
    refine removed.under fun used => ?_
    obtain ⟨k, hk, equal⟩ := List.mem_map.mp used
    exact plain.temp n hm k (subRest k hk) equal.symm
  refine ⟨rfl, (back.trans removed).mono fun x hx => ?_, ?_, ?_⟩
  · rcases List.mem_append.mp hx with used | used
    · obtain ⟨n, hd, used⟩ := List.mem_flatMap.mp used
      exact List.mem_flatMap.mpr ⟨n, subDone n hd, used⟩
    · obtain ⟨n, hr, rfl⟩ := List.mem_map.mp used
      exact List.mem_flatMap.mpr ⟨n, subRest n hr, by simp [namesOf]⟩
  · intro n hd
    rw [untouched n (subDone n hd), restores n hd]
  · intro n hm other
    rw [untouched n hm]
    exact back.under (plain.not_mem_flatMap hm subDone other n (by simp [namesOf]))

/-- Undoing brings every target back if no directory is in the way and the name that failed had
held nothing, in case it was committed before. -/
theorem Undone.kept (undone : Undone dir d done names w' out) (poised : Poised dir d names w₀)
    (h : Swapped dir d done w₀ w) (sub : ∀ n ∈ done, n ∈ names) (hn : name ∈ names)
    (touch : Touches dir d (namesOf name) w w') (unplaced : Unplaced d name w w')
    (quiet : ¬ Spent w₀ w) (undoable : Undoable w₀.files d done name)
    (idle : name ∈ done → w.isArmed = false) :
    ∀ n ∈ names, out.files.under d n = w₀.files.under d n := by
  intro n hm
  have leads := poised.leads
  by_cases committed : n ∈ done
  · rw [undone.restored n committed]
    by_cases here : n = name
    · subst here
      have free : w.files.under d (backupName n) ≠ some .directory :=
        fun hd => undoable.1 n committed (h.touches.under_directory.mp hd)
      rw [unplaced.backup (idle committed) free, undoable.2 committed]
      rfl
    · have apart := poised.plain.apart hm hn here
      rw [touch.under (apart _ (by simp [namesOf])), touch.under (apart _ (by simp [namesOf]))]
      exact (h.placed n committed).restored_eq leads (poised.target n hm)
        (undoable.1 n committed) quiet
  · rw [undone.same n hm committed]
    have before := h.same poised.plain sub hm committed n (by simp [namesOf])
    by_cases here : n = name
    · subst here
      rw [unplaced.target, before]
    · rw [touch.under (poised.plain.apart hm hn here n (by simp [namesOf])), before]

/-- Without a refusal, every target is brought back just if the clash can be undone. -/
theorem Undone.kept_iff (undone : Undone dir d done names w' out) (poised : Poised dir d names w₀)
    (h : Swapped dir d done w₀ w) (sub : ∀ n ∈ done, n ∈ names) (hn : name ∈ names)
    (touch : Touches dir d (namesOf name) w w') (unplaced : Unplaced d name w w')
    (idle : w₀.isArmed = false) :
    (∀ n ∈ names, out.files.under d n = w₀.files.under d n) ↔
      Undoable w₀.files d done name := by
  have whole := h.touches.trans touch
  have calm := h.touches.idle idle
  constructor
  · intro kept
    have free : ∀ n ∈ done, w₀.files.under d (backupName n) ≠ some .directory := by
      intro n committed blocked
      have hm := sub n committed
      obtain ⟨absent, present⟩ := (h.placed n committed).restored_ne poised.leads h.touches
        (poised.target n hm) blocked
      have stays : out.files.under d n = w'.files.under d n := by
        rw [undone.restored n committed, whole.under_directory.mpr blocked]
        rfl
      have still : w'.files.under d n = w.files.under d n := by
        by_cases here : n = name
        · exact here ▸ unplaced.target
        · exact touch.under (poised.plain.apart hm hn here n (by simp [namesOf]))
      rw [← still, ← stays, kept n hm] at present
      exact present absent
    refine ⟨free, fun committed => ?_⟩
    have leaf : w.files.under d (backupName name) ≠ some .directory :=
      fun hd => free name committed (h.touches.under_directory.mp hd)
    rw [← kept name hn, undone.restored name committed, unplaced.backup calm leaf]
    rfl
  · intro undoable
    exact undone.kept poised h sub hn touch unplaced (fun spent => spent.armed idle) undoable
      fun _ => calm

/-- Why a commit fails after others: it is refused, or there is a clash. -/
theorem Swapped.cause (h : Swapped dir d done w₀ w) (poised : Poised dir d names w₀)
    (sub : ∀ n ∈ done, n ∈ names) (hn : name ∈ names)
    (distinct : name ∉ done ∨ w₀.isArmed = false) (unplaced : Unplaced d name w w') :
    Spent w w' ∨ (w₀.isArmed = false ∧ Clash w₀.files d done name) := by
  by_cases again : name ∈ done
  · exact .inr ⟨distinct.resolve_left fun fresh => fresh again, .inl again⟩
  · have same := h.same poised.plain sub hn again
    refine unplaced.reason.imp_right fun reason => ?_
    rcases reason with ⟨blocked, present⟩ | missing
    · rw [same _ (by simp [namesOf])] at blocked present
      exact ⟨poised.backup name hn blocked, .inr ⟨blocked, present⟩⟩
    · obtain ⟨content, held⟩ := poised.temp name hn
      rw [same _ (by simp [namesOf]), held] at missing
      cases missing

/-- Undoing after a failed commit brings every target back just if the names come to no clash, or
to one that is harmless. -/
theorem Undone.kept_iff_harmless (undone : Undone dir d done names w' out)
    (poised : Poised dir d names w₀) (h : Swapped dir d done w₀ w)
    (sub : ∀ n ∈ name :: rest ++ done, n ∈ names)
    (distinct : (name :: rest ++ done).Nodup ∨ w₀.isArmed = false)
    (touch : Touches dir d (namesOf name) w w') (unplaced : Unplaced d name w w')
    (cause : Spent w w' ∨ (w₀.isArmed = false ∧ Clash w₀.files d done name)) :
    (∀ n ∈ names, out.files.under d n = w₀.files.under d n) ↔
      Harmless w₀.files d done (name :: rest) := by
  have hn : name ∈ names := sub name List.mem_cons_self
  have subDone : ∀ n ∈ done, n ∈ names := fun n hd => sub n (List.mem_append_right _ hd)
  rcases cause with spent | ⟨idle, clash⟩
  · -- A request was refused: the names are distinct and no directory is at a backup.
    have armed := (spent.preceded h.touches).armed
    have free : ∀ n ∈ names, w₀.files.under d (backupName n) ≠ some .directory :=
      fun n hm blocked => armed (poised.backup n hm blocked)
    have nodup := distinct.resolve_right armed
    have new : name ∉ done := fun again =>
      (List.nodup_cons.mp nodup).1 (List.mem_append_right _ again)
    refine iff_of_true ?_ ?_
    · exact undone.kept poised h subDone hn touch unplaced (fun early => spent.armed early.2)
        ⟨fun n hd => free n (subDone n hd), fun again => absurd again new⟩
        fun again => absurd again new
    · exact harmless_of_distinct nodup fun n hm => free n (sub n (List.mem_append_left _ hm))
  · rw [undone.kept_iff poised h subDone hn touch unplaced idle]
    exact ⟨fun undoable => ⟨fun _ => undoable, fun clear => absurd clash clear⟩,
      fun harmless => harmless.1 clash⟩

/-- The commits run through, or they are undone. That brings back every target just if the first
clash is harmless. -/
theorem commitAll_spec (poised : Poised dir d names w₀) (h : Swapped dir d done w₀ w)
    (sub : ∀ n ∈ rest ++ done, n ∈ names) (distinct : (rest ++ done).Nodup ∨ w₀.isArmed = false)
    {r : Except Error Unit}
    (run : (commitAll (stagedIn dir done) (stagedIn dir rest) : StateM Surroundings _).run w =
      (r, out)) :
    Touches dir d (names.flatMap namesOf) w₀ out ∧
      ((r = .ok () ∧ Swapped dir d (rest.reverse ++ done) w₀ out ∧
          Harmless w₀.files d done rest) ∨
        ((∃ e, r = .error e) ∧
          ((∀ n ∈ names, out.files.under d n = w₀.files.under d n) ↔
            Harmless w₀.files d done rest) ∧
          (w₀.isArmed = false → (rest ++ done).Nodup →
            ∃ n ∈ rest, w₀.files.under d (backupName n) = some .directory))) := by
  induction rest generalizing done w with
  | nil =>
    cases run
    refine ⟨h.touches.mono fun x hx => ?_, .inl ⟨rfl, h, trivial⟩⟩
    obtain ⟨n, hn, used⟩ := List.mem_flatMap.mp hx
    exact List.mem_flatMap.mpr ⟨n, sub n hn, used⟩
  | cons name rest ih =>
    have hn : name ∈ names := sub name List.mem_cons_self
    have subDone : ∀ n ∈ done, n ∈ names :=
      fun n hd => sub n (List.mem_append_right _ hd)
    have fresh : name ∉ done ∨ w₀.isArmed = false :=
      distinct.imp_left fun nodup again =>
        (List.nodup_cons.mp nodup).1 (List.mem_append_right _ again)
    rw [stagedIn, stagedIn, List.map_cons, commitAll, run_bind] at run
    obtain ⟨⟨q, w₁⟩, h₁⟩ : ∃ o, (commit (Staged.of dir name) : StateM Surroundings _).run w = o :=
      ⟨_, rfl⟩
    rw [h₁] at run
    obtain ⟨touch, outcome⟩ := commit_spec h.touches.leads (poised.ready name hn)
      (h.committable poised subDone hn fresh) h₁
    rcases outcome with ⟨rfl, placed⟩ | ⟨⟨e, rfl⟩, unplaced⟩
    · obtain ⟨more, clear⟩ := h.next poised.plain subDone hn touch placed
      have moved : ∀ n, n ∈ rest ++ name :: done ↔ n ∈ name :: rest ++ done :=
        fun n => List.perm_middle.mem_iff
      have nodup : (rest ++ name :: done).Nodup ↔ (name :: rest ++ done).Nodup :=
        List.perm_middle.nodup_iff
      have step : Harmless w₀.files d done (name :: rest) ↔
          Harmless w₀.files d (name :: done) rest :=
        ⟨fun whole => whole.2 clear, fun later => ⟨fun clash => absurd clash clear, fun _ => later⟩⟩
      obtain ⟨touches, outcome⟩ := ih more (fun n hm => sub n ((moved n).mp hm))
        (distinct.imp_left nodup.mpr) run
      refine ⟨touches, ?_⟩
      rcases outcome with ⟨rfl, swapped, harmless⟩ | ⟨failed, kept, cause⟩
      · refine .inl ⟨rfl, ?_, step.mpr harmless⟩
        rwa [List.reverse_cons, List.append_assoc, List.singleton_append]
      · refine .inr ⟨failed, kept.trans step.symm, fun idle whole => ?_⟩
        obtain ⟨n, hr, blocked⟩ := cause idle (nodup.mpr whole)
        exact ⟨n, List.mem_cons_of_mem _ hr, blocked⟩
    · -- The commit failed, so those before are rolled back.
      have cause := h.cause poised subDone hn fresh unplaced
      have calm : w₁.isArmed = false := by
        rcases cause with spent | ⟨idle, -⟩
        · exact spent.2
        · exact (h.touches.trans touch).idle idle
      have placedFile : ∀ n ∈ done, ∃ content, w₁.files.under d n = some (.file content) := by
        intro n hd
        obtain ⟨content, -, put⟩ := (h.placed n hd).staged
        refine ⟨content, ?_⟩
        by_cases here : n = name
        · subst here
          rw [unplaced.target, put]
        · rw [touch.under (poised.plain.apart (subDone n hd) hn here n (by simp [namesOf])), put]
      obtain ⟨rfl, back, undone⟩ := undo_spec touch.leads poised.plain poised.ready sub h.nodup calm
        placedFile run
      have whole : Touches dir d (names.flatMap namesOf) w₀ out := by
        refine ((h.touches.trans touch).trans back).mono fun x hx => ?_
        rcases List.mem_append.mp hx with used | used
        · rcases List.mem_append.mp used with used | used
          · obtain ⟨n, hd, used⟩ := List.mem_flatMap.mp used
            exact List.mem_flatMap.mpr ⟨n, subDone n hd, used⟩
          · exact List.mem_flatMap.mpr ⟨name, hn, used⟩
        · exact used
      refine ⟨whole, .inr ⟨⟨e, rfl⟩, ?_, ?_⟩⟩
      · exact undone.kept_iff_harmless poised h sub distinct touch unplaced cause
      · intro idle nodup
        rcases cause with spent | ⟨-, again | ⟨blocked, -⟩⟩
        · exact absurd idle (spent.preceded h.touches).armed
        · exact absurd (List.mem_append_right _ again) (List.nodup_cons.mp nodup).1
        · exact ⟨name, List.mem_cons_self, blocked⟩

end Batch

end ApiReference
