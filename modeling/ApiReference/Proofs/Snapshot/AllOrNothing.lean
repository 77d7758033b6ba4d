import ApiReference.Proofs.Snapshot.Batch

/-!
All files of a batch are put into its directory, or none, whichever request is refused. That
holds as long as making the directory does not make a target or a backup on the way.
-/

namespace ApiReference

open Surroundings

namespace Batch

variable {w out : Surroundings} {dir : Path} {files : List (String × String)}

/-- A batch fails before its directory is there, or it fills it. -/
theorem write_cases (regular : w.files.Regular) {r : Except Error Unit}
    (run : (write dir files : StateM Surroundings _).run w = (r, out)) :
    ((∃ e, r = .error e) ∧ ((out.files = w.files ∧ Spent w out) ∨
      (out.files = (w.files.makeDirectories dir).2 ∧
        (w.files.makeDirectories dir).1 ≠ .ok () ∧ out.isArmed = w.isArmed))) ∨
    ∃ w₁ d, (w.files.makeDirectories dir).1 = .ok () ∧
      w₁.files = (w.files.makeDirectories dir).2 ∧ w₁.isArmed = w.isArmed ∧
      w₁.files.LeadsTo dir d ∧ (fill dir files).run w₁ = (r, out) := by
  have cases := request_cases (FileTree.makeDirectories dir) w
  have makes : (Files.makeDirectories dir : StateM Surroundings _).run w =
    request (FileTree.makeDirectories dir) w := rfl
  rw [write_eq, run_bind, makes] at run
  obtain ⟨⟨q, w₁⟩, h₁⟩ : ∃ o, request (FileTree.makeDirectories dir) w = o := ⟨_, rfl⟩
  rw [h₁] at run cases
  simp only at cases
  rcases cases with ⟨result, made, armed⟩ | ⟨⟨fault, rfl⟩, same, spent⟩
  · cases q with
    | error fault =>
      cases run
      exact .inl ⟨⟨_, rfl⟩, .inr ⟨made, by simp [← result], armed⟩⟩
    | ok =>
      obtain ⟨d, leads⟩ := FileTree.leadsTo_of_makeDirectories regular result.symm
      exact .inr ⟨w₁, d, result.symm, made, armed, made ▸ leads, run⟩
  · cases run
    exact .inl ⟨⟨_, rfl⟩, .inl ⟨same, spent⟩⟩

/-- Making a directory makes none of the targets and none of the backups of a batch. It does so
only if its path leads through them, as `out/a/..` does through `out/a`. -/
def Apart (dir : Path) (names : List String) (t : FileTree) : Prop :=
  ∀ d, (t.makeDirectories dir).2.LeadsTo dir d → ∀ n ∈ names,
    (t.makeDirectories dir).2.under d n = t.under d n ∧
      (t.makeDirectories dir).2.under d (backupName n) = t.under d (backupName n)

/-- A path without steps up leads through none of the places in its directory. -/
theorem apart_of_noUp {t : FileTree} (regular : t.Regular) (noUp : ".." ∉ dir.parts)
    (names : List String) : Apart dir names t := by
  intro d leads n _
  have grown := FileTree.grown_makeDirectories regular dir
  have below (x : String) : (t.makeDirectories dir).2.under d x = t.under d x := by
    rcases grown.new (d ++ [x]) with same | ⟨-, -, q, around, there⟩
    · exact same
    · have short := FileTree.length_le_of_around leads noUp around there
      rw [List.length_append, List.length_singleton] at short
      omega
  exact ⟨below n, below (backupName n)⟩

/-- No directory is at a backup. -/
def BackupsFree (dir : Path) (names : List String) (t : FileTree) : Prop :=
  ∀ d, (t.makeDirectories dir).2.LeadsTo dir d → ∀ n ∈ names,
    t.under d (backupName n) ≠ some .directory

/-- A place that was empty and at which there is a directory now, because the path of another
directory leads there. -/
def MadeOnWay (dir : Path) (t u : FileTree) (place : Place) : Prop :=
  t.entryAt place = none ∧ u.entryAt place = some .directory ∧
    ∃ q, dir.Around q ∧ u.IsAt q place

/-- Nothing is in the way of a batch: its directory can be made, and its files put there. -/
structure Unhindered (dir : Path) (names : List String) (t : FileTree) : Prop where
  made : (t.makeDirectories dir).1 = .ok ()
  fillable : ∀ d, (t.makeDirectories dir).2.LeadsTo dir d →
    Fillable dir d names (t.makeDirectories dir).2
  free : ∀ d, (t.makeDirectories dir).2.LeadsTo dir d → ∀ n ∈ names,
    (t.makeDirectories dir).2.under d (backupName n) ≠ some .directory

/-- A batch that nothing is in the way of succeeds. -/
theorem write_succeeds (regular : w.files.Regular) (idle : w.isArmed = false)
    (plain : PlainNames (names files)) (distinct : (names files).Nodup)
    (unhindered : Unhindered dir (names files) w.files) {r : Except Error Unit}
    (run : (write dir files : StateM Surroundings _).run w = (r, out)) : r = .ok () := by
  rcases write_cases regular run with
    ⟨-, ⟨-, spent⟩ | ⟨-, failed, -⟩⟩ | ⟨w₁, d, -, made, armed, leads, filling⟩
  · exact absurd idle spent.armed
  · exact absurd unhindered.made failed
  · have leads' : (w.files.makeDirectories dir).2.LeadsTo dir d := made ▸ leads
    refine fill_succeeds leads plain distinct (armed.trans idle) ?_ ?_ filling
    · rw [made]
      exact unhindered.fillable d leads'
    · rw [made]
      exact unhindered.free d leads'

/-- What comes of a batch. -/
structure Outcome (dir : Path) (files : List (String × String)) (w : Surroundings)
    (r : Except Error Unit) (out : Surroundings) : Prop where
  /-- If it succeeds, each target holds its content. -/
  written : r = .ok () → ∃ d, out.files.LeadsTo dir d ∧ ∀ f ∈ files,
    out.files.under d f.1 = some (.file f.2.toUTF8) ∧
      out.files.read (dir.join f.1) = .ok f.2.toUTF8
  /-- If it fails, each target is as it was. -/
  kept : (∃ e, r = .error e) → ∀ d, out.files.LeadsTo dir d → ∀ n ∈ names files,
    out.files.under d n = w.files.under d n
  /-- Only targets and what is staged for them change, and directories on the way are made. -/
  frame : ∀ place, out.files.entryAt place ≠ w.files.entryAt place →
    MadeOnWay dir w.files out.files place ∨ ∃ d, out.files.LeadsTo dir d ∧
      ∃ n ∈ names files, ∃ x ∈ namesOf n, place = d ++ [x]
  /-- If no request was to be refused, a success leaves neither staged contents nor backups. -/
  clean : w.isArmed = false → r = .ok () → ∀ d, out.files.LeadsTo dir d → ∀ n ∈ names files,
    out.files.under d (tempName n) = none ∧ out.files.under d (backupName n) = none
  /-- If no request was to be refused, a failure leaves nothing of what it staged. What it did not
  come to stage is as it was once the directory was there, and so are the backups. -/
  tidied : w.isArmed = false → (∃ e, r = .error e) → ∀ d, out.files.LeadsTo dir d →
    ∃ staged later, names files = staged ++ later ∧
      (∀ n ∈ staged, out.files.under d (tempName n) = none) ∧
      (∀ n ∈ later, out.files.under d (tempName n) =
        (w.files.makeDirectories dir).2.under d (tempName n)) ∧
      (∀ n ∈ later.head?, (w.files.makeDirectories dir).1 ≠ .ok () ∨
        ¬ dir.IsUsable (tempName n) ∨
        (w.files.makeDirectories dir).2.under d (tempName n) = some .directory) ∧
      ∀ n ∈ names files, out.files.under d (backupName n) = w.files.under d (backupName n)

private theorem outcome_of_missing (regular : w.files.Regular)
    (apart : Apart dir (names files) w.files) {e : Error}
    (cause : (out.files = w.files ∧ Spent w out) ∨
      (out.files = (w.files.makeDirectories dir).2 ∧
        (w.files.makeDirectories dir).1 ≠ .ok () ∧ out.isArmed = w.isArmed)) :
    Outcome dir files w (.error e) out := by
  have grown := FileTree.grown_makeDirectories regular dir
  refine ⟨nofun, ?_, ?_, fun _ => nofun, ?_⟩
  · intro _ d leads n hn
    rcases cause with ⟨same, -⟩ | ⟨made, -, -⟩
    · rw [same]
    · rw [made] at leads ⊢
      exact (apart d leads n hn).1
  · intro place changed
    rcases cause with ⟨same, -⟩ | ⟨made, -, -⟩
    · rw [same] at changed
      exact absurd rfl changed
    · rw [made] at changed ⊢
      exact .inl ((grown.new place).resolve_left changed)
  · intro idle _ d leads
    rcases cause with ⟨-, spent⟩ | ⟨made, failed, -⟩
    · exact absurd idle spent.armed
    · rw [made] at leads ⊢
      exact ⟨[], names files, rfl, fun _ hn => absurd hn List.not_mem_nil, fun _ _ => rfl,
        fun _ _ => .inl failed, fun n hn => (apart d leads n hn).2⟩

/-- All files of a batch are put in place or none, whichever request is refused, if any. -/
theorem write_allOrNothing (regular : w.files.Regular) (plain : PlainNames (names files))
    (distinct : (names files).Nodup) (apart : Apart dir (names files) w.files)
    (free : BackupsFree dir (names files) w.files) {r : Except Error Unit}
    (run : (write dir files : StateM Surroundings _).run w = (r, out)) :
    Outcome dir files w r out := by
  rcases write_cases regular run with ⟨⟨e, rfl⟩, cause⟩ | ⟨w₁, d, ok, made, armed, leads, filling⟩
  · exact outcome_of_missing regular apart cause
  · have grown := FileTree.grown_makeDirectories regular dir
    have leads₀ : (w.files.makeDirectories dir).2.LeadsTo dir d := made ▸ leads
    have noDirectory : ∀ n ∈ names files,
        w₁.files.under d (backupName n) ≠ some .directory := by
      intro n hn
      rw [made, (apart d leads₀ n hn).2]
      exact free d leads₀ n hn
    obtain ⟨touch, outcome⟩ := fill_spec leads plain (.inl distinct)
      (fun n hn hd => absurd hd (noDirectory n hn)) filling
    have here {d' : Place} (h : out.files.LeadsTo dir d') : d' = d := h.unique touch.leads
    refine ⟨?_, ?_, ?_, ?_, ?_⟩
    · rintro rfl
      rcases outcome with ⟨-, filled⟩ | ⟨⟨e, failed⟩, -⟩
      · refine ⟨d, touch.leads, fun f hf => ⟨filled.content f hf, ?_⟩⟩
        exact FileTree.read_join touch.leads (filled.ready f.1 (mem_names hf)).target
          (filled.content f hf)
      · cases failed
    · rintro ⟨e, rfl⟩ d' leads' n hn
      rcases outcome with ⟨failed, -⟩ | ⟨-, unfilled⟩
      · cases failed
      · have nodup : (names files ++ []).Nodup := by rwa [List.append_nil]
        have harmless := harmless_of_distinct nodup noDirectory
        rw [here leads', unfilled.kept harmless n hn, made]
        exact (apart d leads₀ n hn).1
    · intro place changed
      by_cases staged : ∃ x ∈ (names files).flatMap namesOf, place = d ++ [x]
      · obtain ⟨x, hx, rfl⟩ := staged
        obtain ⟨n, hn, used⟩ := List.mem_flatMap.mp hx
        exact .inr ⟨d, touch.leads, n, hn, x, used, rfl⟩
      · have same := touch.same place fun x hx equal => staged ⟨x, hx, equal⟩
        rw [same, made] at changed
        obtain ⟨empty, there, q, around, at_q⟩ := (grown.new place).resolve_left changed
        refine .inl ⟨empty, by rw [same, made, there], q, around, ?_⟩
        exact (made ▸ at_q : w₁.files.IsAt q place).kept leads.regular.noLinks touch.keeps
    · rintro idle rfl d' leads' n hn
      rcases outcome with ⟨-, filled⟩ | ⟨⟨e, failed⟩, -⟩
      · rw [here leads']
        exact ⟨filled.temp n hn, filled.backup (armed.trans idle) n hn (noDirectory n hn)⟩
      · cases failed
    · rintro idle ⟨e, rfl⟩ d' leads'
      rcases outcome with ⟨failed, -⟩ | ⟨-, unfilled⟩
      · cases failed
      · obtain ⟨staged, later, split, gone, left, head, backups⟩ :=
          unfilled.tidied (armed.trans idle) distinct noDirectory
        rw [here leads']
        rw [made] at left head backups
        refine ⟨staged, later, split, gone, left, fun n hn => .inr (head n hn), fun n hn => ?_⟩
        rw [backups n hn, (apart d leads₀ n hn).2]

/-- A target that holds something, another that is missing, and a request in between that is
refused. -/
theorem write_allOrNothing_refused :
    let files : FileTree :=
      ⟨[(["out"], .directory), (["out", "a"], .file "old".toUTF8)], []⟩
    let w := Surroundings.around files (some (6, .notFound))
    let run := (write ⟨["out"]⟩ [("a", "new"), ("b", "")] : StateM Surroundings _).run w
    files.Regular ∧ PlainNames (names [("a", "new"), ("b", "")]) ∧
      Outcome ⟨["out"]⟩ [("a", "new"), ("b", "")] w run.1 run.2 := by
  intro files w run
  have regular : files.Regular := FileTree.regular_of_isRegular (by decide)
  have plain : PlainNames (names [("a", "new"), ("b", "")]) := by decide
  refine ⟨regular, plain, ?_⟩
  refine write_allOrNothing regular plain (by decide) (apart_of_noUp regular (by decide) _) ?_ rfl
  intro d _ n hn there
  have held := FileTree.mem_entries (by simp) there
  simp only [names, List.map_cons, List.map_nil, List.mem_cons, List.not_mem_nil, or_false] at hn
  rcases hn with rfl | rfl <;>
    simp [w, files, Surroundings.around, List.append_eq_cons_iff, backupName] at held

/-- A directory whose path leads up through the name of a target is made together with that. -/
theorem write_makes_target :
    let w := Surroundings.around ⟨[], []⟩ none
    let dir : Path := ⟨["a", ".."]⟩
    w.files.Regular ∧ PlainNames (names [("a", "")]) ∧ (names [("a", "")]).Nodup ∧
      BackupsFree dir (names [("a", "")]) w.files ∧
      ∃ e out, (write dir [("a", "")] : StateM Surroundings _).run w = (.error e, out) ∧
        out.files.LeadsTo dir [] ∧ w.files.under [] "a" = none ∧
        out.files.under [] "a" = some .directory := by
  intro w dir
  have regular : w.files.Regular := FileTree.regular_of_isRegular (by decide)
  have plain : PlainNames (names [("a", "")]) := by decide
  refine ⟨regular, plain, by decide, ?_, ?_⟩
  · intro d _ n _ there
    cases FileTree.mem_entries (by simp) there
  · obtain ⟨r, out, run⟩ : ∃ r out,
        (write dir [("a", "")] : StateM Surroundings _).run w = (r, out) := ⟨_, _, rfl⟩
    have makes : w.files.makeDirectories dir = (.ok (), ⟨[(["a"], .directory)], []⟩) := by cbv
    rcases write_cases regular run with ⟨-, ⟨-, spent⟩ | ⟨-, failed, -⟩⟩ |
      ⟨w₁, d, -, made, armed, leads, filling⟩
    · exact absurd rfl spent.armed
    · exact absurd (by rw [makes]) failed
    · rw [makes] at made
      obtain rfl : d = [] := by
        have way := leads.walk
        rw [made] at way
        have up : (⟨[(["a"], .directory)], []⟩ : FileTree).walk false FileTree.linkLimit []
          ["a", "..", "."] = .ok [] := by cbv
        exact (Except.ok.inj (up.symm.trans way)).symm
      have there : w₁.files.under [] "a" = some .directory := by rw [made]; rfl
      obtain ⟨touch, outcome⟩ := fill_spec leads plain (.inl (by decide))
        (fun _ _ _ => armed.trans rfl) filling
      have stays := touch.under_directory.mpr there
      rcases outcome with ⟨-, filled⟩ | ⟨⟨e, rfl⟩, -⟩
      · rw [filled.content ("a", "") List.mem_cons_self] at stays
        cases stays
      · exact ⟨e, out, run, touch.leads, rfl, stays⟩

end Batch

end ApiReference
