import ApiReference.Proofs.Snapshot.Commit

/-!
Whole batches. `fill` is a batch whose directory is there already; `fill_spec` says what it leaves
if it succeeds and if it fails. The directories that are made before add nothing but themselves.
-/

namespace ApiReference

open Surroundings

namespace FileTree

variable {t u : FileTree} {dir : Path} {d d' : Place}

/-- A path leads to one directory. -/
theorem LeadsTo.unique (h : t.LeadsTo dir d) (k : t.LeadsTo dir d') : d = d' := by
  have way := h.walk
  rw [k.walk] at way
  exact (Except.ok.inj way).symm

end FileTree

namespace Batch

variable {w w' out : Surroundings} {dir : Path} {d : Place} {files : List (String × String)}

/-- What a batch does once its directory is there. -/
def fill (dir : Path) (files : List (String × String)) :
    StateM Surroundings (Except Error Unit) := do
  match ← stage dir [] files with
  | .error e => return .error e
  | .ok staged =>
    match ← firstBlocked? staged with
    | some f =>
      discard staged
      return .error (FileFault.targetIsDirectory.at f.target)
    | none =>
      match ← commitAll [] staged with
      | .error e => return .error e
      | .ok () =>
        dropBackups staged
        return .ok ()

theorem write_eq (dir : Path) (files : List (String × String)) :
    (write dir files : StateM Surroundings _) = (do
      match ← Files.makeDirectories dir with
      | .error fault => return .error (fault.at dir)
      | .ok () => fill dir files) := rfl

/-- The names of the files of a batch. -/
def names (files : List (String × String)) : List String := files.map Prod.fst

/-- Nothing keeps the contents of files from being staged, and no target is a directory. -/
structure Fillable (dir : Path) (d : Place) (names : List String) (t : FileTree) : Prop where
  usable : ∀ n ∈ names, dir.IsUsable (tempName n)
  temp : ∀ n ∈ names, t.under d (tempName n) ≠ some .directory
  target : ∀ n ∈ names, n ≠ "." ∧ n ≠ ".." ∧ t.under d n ≠ some .directory

/-- A batch can be undone if it gets as far as being committed. -/
def RollsBack (dir : Path) (d : Place) (names : List String) (t : FileTree) : Prop :=
  Fillable dir d names t → Harmless t d [] names

/-- Everything is in place. -/
structure Filled (dir : Path) (d : Place) (files : List (String × String))
    (w out : Surroundings) : Prop where
  distinct : (names files).Nodup
  ready : ∀ n ∈ names files, Ready dir n
  content : ∀ f ∈ files, out.files.under d f.1 = some (.file f.2.toUTF8)
  temp : ∀ n ∈ names files, out.files.under d (tempName n) = none
  backup : w.isArmed = false → ∀ n ∈ names files,
    w.files.under d (backupName n) ≠ some .directory → out.files.under d (backupName n) = none
  rollsBack : RollsBack dir d (names files) w.files

/-- Of the names, some first ones had their contents staged, and these are removed; no later one
was touched, and no backup was made. -/
def Tidied (dir : Path) (d : Place) (names : List String) (w out : Surroundings) : Prop :=
  ∃ staged later, names = staged ++ later ∧
    (∀ n ∈ staged, out.files.under d (tempName n) = none) ∧
    (∀ n ∈ later, out.files.under d (tempName n) = w.files.under d (tempName n)) ∧
    (∀ n ∈ later.head?, ¬ dir.IsUsable (tempName n) ∨
      w.files.under d (tempName n) = some .directory) ∧
    ∀ n ∈ names, out.files.under d (backupName n) = w.files.under d (backupName n)

/-- The batch has failed. -/
structure Unfilled (dir : Path) (d : Place) (names : List String) (w out : Surroundings) :
    Prop where
  kept : Harmless w.files d [] names →
    ∀ n ∈ names, out.files.under d n = w.files.under d n
  kept_iff : w.isArmed = false →
    ((∀ n ∈ names, out.files.under d n = w.files.under d n) ↔ RollsBack dir d names w.files)
  tidied : w.isArmed = false → names.Nodup →
    (∀ n ∈ names, w.files.under d (backupName n) ≠ some .directory) → Tidied dir d names w out
  cause : w.isArmed = false → names.Nodup →
    (∀ n ∈ names, w.files.under d (backupName n) ≠ some .directory) → ¬ Fillable dir d names w.files

/-- Staging changes nothing about whether clashes are harmless. -/
private theorem harmless_congr {t u : FileTree} {before rest : List String}
    (same : ∀ n ∈ rest ++ before, u.under d n = t.under d n ∧
      u.under d (backupName n) = t.under d (backupName n)) :
    Harmless u d before rest ↔ Harmless t d before rest := by
  induction rest generalizing before with
  | nil => rfl
  | cons name rest ih =>
    obtain ⟨target, backup⟩ := same name List.mem_cons_self
    have later : Harmless u d (name :: before) rest ↔ Harmless t d (name :: before) rest :=
      ih fun n hn => same n (List.perm_middle.mem_iff.mp hn)
    have clash : Clash u d before name ↔ Clash t d before name := by
      rw [Clash, Clash, target, backup]
    have undoable : Undoable u d before name ↔ Undoable t d before name := by
      rw [Undoable, Undoable, target]
      refine and_congr_left fun _ => forall₂_congr fun n hn => ?_
      rw [(same n (List.mem_append_right _ hn)).2]
    rw [Harmless, Harmless, clash, undoable, later]

theorem mem_names {f : String × String} (hf : f ∈ files) : f.1 ∈ names files :=
  List.mem_map_of_mem hf

/-- After the stage, a batch without blocked targets can be committed. -/
private theorem AllStaged.poised (staged : AllStaged dir d files w w')
    (plain : PlainNames (names files))
    (distinct : (names files).Nodup ∨ w.isArmed = false)
    (backup : ∀ n ∈ names files, w.files.under d (backupName n) = some .directory →
      w.isArmed = false)
    (free : ∀ n ∈ names files, w'.files.isDirectory (dir.join n) = false) :
    Poised dir d (names files) w' := by
  have leads := staged.touches.leads
  have usable : ∀ n ∈ names files, dir.IsUsable (tempName n) := by
    intro n hn
    obtain ⟨f, hf, rfl⟩ := List.mem_map.mp hn
    exact staged.usable f hf
  have ready n hn := ready_of_free leads (usable n hn) (plain.fileName n hn) (free n hn)
  refine ⟨leads, plain, fun n hn => (ready n hn).1, fun n hn => (ready n hn).2, ?_, ?_, ?_⟩
  · intro n hn
    obtain ⟨f, hf, rfl⟩ := List.mem_map.mp hn
    obtain ⟨g, -, -, held⟩ := staged.staged f hf
    exact ⟨_, held⟩
  · intro n hn hd
    rw [staged.armed]
    exact backup n hn (staged.touches.under_directory.mp hd)
  · rw [staged.armed]
    exact distinct

/-- The stage touches neither targets nor backups. -/
private theorem AllStaged.same (staged : AllStaged dir d files w w')
    (plain : PlainNames (names files)) {n : String} (hn : n ∈ names files) :
    w'.files.under d n = w.files.under d n ∧
      w'.files.under d (backupName n) = w.files.under d (backupName n) := by
  constructor
  · refine staged.touches.under fun used => ?_
    obtain ⟨f, hf, equal⟩ := List.mem_map.mp used
    exact plain.temp n hn f.1 (mem_names hf) equal.symm
  · refine staged.touches.under fun used => ?_
    obtain ⟨f, hf, equal⟩ := List.mem_map.mp used
    exact tempName_ne_backupName f.1 n equal

/-- A failure that touches only what is staged, for a reason that keeps the batch from being
committed. -/
private theorem unfilled_of_temps (plain : PlainNames (names files))
    (touch : Touches dir d ((names files).map tempName) w out)
    (reason : w.isArmed = false → ¬ Fillable dir d (names files) w.files)
    (tidied : w.isArmed = false → (names files).Nodup →
      (∀ n ∈ names files, out.files.under d (backupName n) = w.files.under d (backupName n)) →
      Tidied dir d (names files) w out) :
    Unfilled dir d (names files) w out := by
  have kept : ∀ n ∈ names files, out.files.under d n = w.files.under d n := by
    intro n hn
    refine touch.under fun used => ?_
    obtain ⟨m, hm, equal⟩ := List.mem_map.mp used
    exact plain.temp n hn m hm equal.symm
  refine ⟨fun _ => kept, fun idle => iff_of_true kept fun fillable => ?_, fun idle nodup _ => ?_,
    fun idle _ _ => reason idle⟩
  · exact absurd fillable (reason idle)
  · refine tidied idle nodup fun n _ => touch.under fun used => ?_
    obtain ⟨m, -, equal⟩ := List.mem_map.mp used
    exact tempName_ne_backupName m n equal

/-- The stage fails. -/
private theorem unfilled_of_stage (plain : PlainNames (names files))
    (touch : Touches dir d ((names files).map tempName) w out)
    {before after : List String} {next : String}
    (split : names files = before ++ next :: after)
    (discarded : w.isArmed = false → Discarded dir d before next w out) :
    Unfilled dir d (names files) w out := by
  have hn : next ∈ names files := by simp [split]
  refine unfilled_of_temps plain touch (fun idle fillable => ?_) fun idle nodup backups => ?_
  · rcases (discarded idle).reason with unusable | hd
    · exact unusable (fillable.usable next hn)
    · exact fillable.temp next hn hd
  · refine ⟨before, next :: after, split, (discarded idle).gone, fun n hl => ?_, ?_, backups⟩
    · refine (discarded idle).left n fun earlier => ?_
      rw [split] at nodup
      exact (List.disjoint_of_nodup_append nodup) earlier hl
    · rintro n ⟨⟩
      exact (discarded idle).reason

/-- A target is a directory. -/
private theorem unfilled_of_blocked (plain : PlainNames (names files))
    (staged : AllStaged dir d files w w') {n : String} (hn : n ∈ names files)
    (blocked : w'.files.isDirectory (dir.join n) = true)
    (run : ((removeNames dir ((names files).map tempName)).run w').2 = out) :
    Touches dir d ((names files).map tempName) w out ∧ Unfilled dir d (names files) w out := by
  have usable : ∀ x ∈ (names files).map tempName, dir.IsUsable x := by
    intro x hx
    obtain ⟨m, hm, rfl⟩ := List.mem_map.mp hx
    obtain ⟨f, hf, rfl⟩ := List.mem_map.mp hm
    exact staged.usable f hf
  obtain ⟨removed, gone⟩ := removeNames_spec staged.touches.leads usable run
  have touch : Touches dir d ((names files).map tempName) w out := by
    refine (staged.touches.trans removed).mono fun x hx => ?_
    rcases List.mem_append.mp hx with early | late
    · obtain ⟨f, hf, rfl⟩ := List.mem_map.mp early
      exact List.mem_map_of_mem (mem_names hf)
    · exact late
  refine ⟨touch, unfilled_of_temps plain touch (fun _ fillable => ?_) fun idle _ backups => ?_⟩
  · obtain ⟨notStill, notUp, leaf⟩ := fillable.target n hn
    have u := isUsable_name (fillable.usable n hn) (plain.fileName n hn) notStill notUp
    have there := (FileTree.isDirectory_join staged.touches.leads u).mp blocked
    exact leaf (staged.touches.under_directory.mp there)
  · refine ⟨names files, [], by simp, fun m hm => ?_, by simp, by simp, backups⟩
    refine gone (staged.touches.idle idle) _ (List.mem_map_of_mem hm) ?_
    obtain ⟨f, hf, rfl⟩ := List.mem_map.mp hm
    obtain ⟨g, -, -, held⟩ := staged.staged f hf
    simp [held]

/-- What is staged and not blocked could be filled in from the start. -/
private theorem AllStaged.fillable (staged : AllStaged dir d files w w')
    (poised : Poised dir d (names files) w') : Fillable dir d (names files) w.files := by
  refine ⟨fun n hn => (poised.ready n hn).temp, fun n hn hd => ?_, fun n hn => ?_⟩
  · obtain ⟨content, held⟩ := poised.temp n hn
    have there := staged.touches.under_directory.mpr hd
    rw [held] at there
    cases there
  · have u := (poised.ready n hn).target
    exact ⟨u.notStill, u.notUp, fun hd => poised.target n hn (staged.touches.under_directory.mpr hd)⟩

/-- All commits ran through. -/
private theorem filled_of_swapped {w₂ : Surroundings} (staged : AllStaged dir d files w w')
    (poised : Poised dir d (names files) w')
    (swapped : Swapped dir d (names files).reverse w' w₂)
    (harmless : Harmless w.files d [] (names files))
    (run : ((removeNames dir ((names files).map backupName)).run w₂).2 = out) :
    Touches dir d ((names files).flatMap namesOf) w₂ out ∧ Filled dir d files w out := by
  have usable : ∀ x ∈ (names files).map backupName, dir.IsUsable x := by
    intro x hx
    obtain ⟨m, hm, rfl⟩ := List.mem_map.mp hx
    exact (poised.ready m hm).backup
  obtain ⟨removed, gone⟩ := removeNames_spec swapped.touches.leads usable run
  have nodup : (names files).Nodup := List.nodup_reverse.mp swapped.nodup
  have placed n (hn : n ∈ names files) := swapped.placed n (List.mem_reverse.mpr hn)
  refine ⟨removed.mono fun x hx => ?_, nodup, poised.ready, ?_, ?_, ?_, fun _ => harmless⟩
  · obtain ⟨m, hm, rfl⟩ := List.mem_map.mp hx
    exact List.mem_flatMap.mpr ⟨m, hm, by simp [namesOf]⟩
  · intro f hf
    obtain ⟨g, hg, same, held⟩ := staged.staged f hf
    obtain ⟨content, was, put⟩ := (placed f.1 (mem_names hf)).staged
    rw [held, List.inj_on_of_nodup_map nodup hg hf same] at was
    rw [removed.under, put, ← was]
    intro used
    obtain ⟨m, hm, equal⟩ := List.mem_map.mp used
    exact poised.plain.backup f.1 (mem_names hf) m hm equal.symm
  · intro n hn
    rw [removed.under, (placed n hn).temp]
    intro used
    obtain ⟨m, -, equal⟩ := List.mem_map.mp used
    exact tempName_ne_backupName n m equal.symm
  · intro idle n hn leaf
    refine gone (swapped.touches.idle ((staged.touches.idle idle))) _ (List.mem_map_of_mem hn) ?_
    intro hd
    exact leaf (staged.touches.under_directory.mp (swapped.touches.under_directory.mp hd))

/-- What the stage leaves comes to the same clashes. -/
private theorem AllStaged.harmless_iff (staged : AllStaged dir d files w w')
    (plain : PlainNames (names files)) :
    Harmless w'.files d [] (names files) ↔ Harmless w.files d [] (names files) :=
  harmless_congr fun n hn => staged.same plain (by simpa using hn)

/-- A commit fails, and those before it are undone. -/
private theorem unfilled_of_commits (staged : AllStaged dir d files w w')
    (poised : Poised dir d (names files) w')
    (kept : (∀ n ∈ names files, out.files.under d n = w'.files.under d n) ↔
      Harmless w'.files d [] (names files))
    (cause : w'.isArmed = false → (names files ++ []).Nodup →
      ∃ n ∈ names files, w'.files.under d (backupName n) = some .directory) :
    Unfilled dir d (names files) w out := by
  have same {n : String} (hn : n ∈ names files) := staged.same poised.plain hn
  have kept : (∀ n ∈ names files, out.files.under d n = w.files.under d n) ↔
      Harmless w.files d [] (names files) := by
    rw [← staged.harmless_iff poised.plain, ← kept]
    exact forall₂_congr fun n hn => by rw [(same hn).1]
  have fillable := staged.fillable poised
  have impossible (idle : w.isArmed = false) (nodup : (names files).Nodup)
      (free : ∀ n ∈ names files, w.files.under d (backupName n) ≠ some .directory) : False := by
    obtain ⟨n, hn, blocked⟩ := cause (staged.armed.trans idle) (by simpa using nodup)
    rw [(same hn).2] at blocked
    exact free n hn blocked
  refine ⟨kept.mpr, fun _ => ?_, fun idle nodup free => ?_, fun idle nodup free => ?_⟩
  · exact kept.trans ⟨fun harmless _ => harmless, fun rollsBack => rollsBack fillable⟩
  · exact (impossible idle nodup free).elim
  · exact (impossible idle nodup free).elim

/-- A batch whose directory is there puts all its files in place, or it fails. Then it can have
done harm only by a clash of names and backups. -/
theorem fill_spec (h : w.files.LeadsTo dir d) (plain : PlainNames (names files))
    (distinct : (names files).Nodup ∨ w.isArmed = false)
    (backup : ∀ n ∈ names files, w.files.under d (backupName n) = some .directory →
      w.isArmed = false)
    {r : Except Error Unit} (run : (fill dir files).run w = (r, out)) :
    Touches dir d ((names files).flatMap namesOf) w out ∧
      ((r = .ok () ∧ Filled dir d files w out) ∨
        ((∃ e, r = .error e) ∧ Unfilled dir d (names files) w out)) := by
  have temps : ∀ x ∈ (names files).map tempName, x ∈ (names files).flatMap namesOf := by
    intro x hx
    obtain ⟨m, hm, rfl⟩ := List.mem_map.mp hx
    exact List.mem_flatMap.mpr ⟨m, hm, by simp [namesOf]⟩
  have named : ∀ f ∈ files, IsFileName f.1 := fun f hf => plain.fileName f.1 (mem_names hf)
  rw [fill, run_bind] at run
  obtain ⟨⟨q, w₁⟩, h₁⟩ : ∃ o, (stage dir [] files : StateM Surroundings _).run w = o := ⟨_, rfl⟩
  rw [h₁] at run
  have noneDone (P : String → Prop) : ∀ n ∈ ([] : List String), P n := by simp
  rcases stage_spec h named (noneDone _) (noneDone _) h₁ with
    ⟨rfl, staged⟩ | ⟨⟨e, rfl⟩, touch, before, next, after, split, discarded⟩
  · change ((do
      match ← firstBlocked? (stagedIn dir (names files)) with
      | some f =>
        discard (stagedIn dir (names files))
        return .error (FileFault.targetIsDirectory.at f.target)
      | none =>
        match ← commitAll (stagedIn dir []) (stagedIn dir (names files)) with
        | .error e => return .error e
        | .ok () =>
          dropBackups (stagedIn dir (names files))
          return .ok () : StateM Surroundings (Except Error Unit))).run w₁ = (r, out) at run
    rw [run_bind, firstBlocked?_run] at run
    cases found : (names files).find? fun n => w₁.files.isDirectory (dir.join n) with
    | some n =>
      simp only [found, Option.map_some, discard_eq, run_bind] at run
      obtain ⟨w₂, h₂⟩ : ∃ o, ((removeNames dir ((names files).map tempName)).run w₁).2 = o :=
        ⟨_, rfl⟩
      rw [h₂] at run
      cases run
      obtain ⟨touch, unfilled⟩ := unfilled_of_blocked plain staged (List.mem_of_find?_eq_some found)
        (by simpa using List.find?_some found) h₂
      exact ⟨touch.mono temps, .inr ⟨⟨_, rfl⟩, unfilled⟩⟩
    | none =>
      simp only [found, Option.map_none, run_bind] at run
      have free : ∀ n ∈ names files, w₁.files.isDirectory (dir.join n) = false :=
        fun n hn => by simpa using List.find?_eq_none.mp found n hn
      have poised := staged.poised plain distinct backup free
      have unstaged : ∀ x ∈ files.map fun f => tempName f.1, x ∈ (names files).flatMap namesOf := by
        intro x hx
        obtain ⟨f, hf, rfl⟩ := List.mem_map.mp hx
        exact temps _ (List.mem_map_of_mem (mem_names hf))
      obtain ⟨⟨q, w₂⟩, h₂⟩ : ∃ o, (commitAll (stagedIn dir []) (stagedIn dir (names files)) :
        StateM Surroundings _).run w₁ = o := ⟨_, rfl⟩
      rw [h₂] at run
      obtain ⟨touch, outcome⟩ := commitAll_spec poised (.start poised.leads) (by simp)
        (by rw [List.append_nil]; exact poised.distinct) h₂
      have touches : Touches dir d ((names files).flatMap namesOf) w w₂ :=
        (staged.touches.trans touch).mono fun x hx =>
          (List.mem_append.mp hx).elim (unstaged x) id
      rcases outcome with ⟨rfl, swapped, harmless⟩ | ⟨⟨e, rfl⟩, kept, cause⟩
      · simp only [dropBackups_eq, run_bind] at run
        obtain ⟨w₃, h₃⟩ : ∃ o, ((removeNames dir ((names files).map backupName)).run w₂).2 = o :=
          ⟨_, rfl⟩
        rw [h₃] at run
        cases run
        rw [List.append_nil] at swapped
        obtain ⟨last, filled⟩ := filled_of_swapped staged poised swapped
          ((staged.harmless_iff plain).mp harmless) h₃
        exact ⟨(touches.trans last).mono (by simp), .inl ⟨rfl, filled⟩⟩
      · cases run
        exact ⟨touches, .inr ⟨⟨e, rfl⟩, unfilled_of_commits staged poised kept cause⟩⟩
  · cases run
    exact ⟨touch.mono temps, .inr ⟨⟨e, rfl⟩, unfilled_of_stage plain touch split discarded⟩⟩

/-- A batch that nothing is in the way of puts all its files in place. -/
theorem fill_succeeds (h : w.files.LeadsTo dir d) (plain : PlainNames (names files))
    (distinct : (names files).Nodup) (idle : w.isArmed = false)
    (fillable : Fillable dir d (names files) w.files)
    (free : ∀ n ∈ names files, w.files.under d (backupName n) ≠ some .directory)
    {r : Except Error Unit} (run : (fill dir files).run w = (r, out)) : r = .ok () := by
  obtain ⟨-, outcome⟩ := fill_spec h plain (.inl distinct) (fun _ _ _ => idle) run
  rcases outcome with ⟨ok, -⟩ | ⟨-, unfilled⟩
  · exact ok
  · exact absurd fillable (unfilled.cause idle distinct free)

end Batch

end ApiReference
