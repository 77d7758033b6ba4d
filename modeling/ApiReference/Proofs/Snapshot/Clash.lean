import ApiReference.Proofs.Page.Readable
import ApiReference.Proofs.Snapshot.Runs

/-!
Runs that fail. Nothing but what is staged may have changed then, and that is so just if the first
clash among the five names, with each other or with directories at their backups, is harmless
(`undisturbed_iff_recoverable`). It is not for a file that is there already and that two of the
names stand for: `generate_loses_file`.
-/

namespace ApiReference

open Surroundings Batch

variable {w out : Surroundings} {t u : FileTree} {dir : Path} {s : OutputSettings}
  {files : List (String × String)}

/-- All that has changed is at the names that contents are staged and kept under, except for
directories that had to be made on the way. -/
def Undisturbed (dir : Path) (names : List String) (t u : FileTree) : Prop :=
  ∀ place, u.entryAt place ≠ t.entryAt place → MadeOnWay dir t u place ∨
    ∃ d, u.LeadsTo dir d ∧ ∃ n ∈ names,
      place = d ++ [tempName n] ∨ place = d ++ [backupName n]

/-- Once the directory is there, a batch of some names can be undone if it has to be. -/
def Recoverable (dir : Path) (names : List String) (t : FileTree) : Prop :=
  (t.makeDirectories dir).1 = .ok () → ∀ d, (t.makeDirectories dir).2.LeadsTo dir d →
    RollsBack dir d names (t.makeDirectories dir).2

/-- Names that differ and have no directories at their backups come to no clash. -/
theorem recoverable_of_distinct {names : List String} (distinct : names.Nodup)
    (apart : Apart dir names t) (free : BackupsFree dir names t) : Recoverable dir names t := by
  intro _ d leads _
  refine harmless_of_distinct (by rwa [List.append_nil]) fun n hn => ?_
  rw [(apart d leads n hn).2]
  exact free d leads n hn

namespace Batch

/-- A batch that fails leaves its directory undisturbed if it can be undone. -/
theorem undisturbed_of_recoverable (regular : w.files.Regular) (idle : w.isArmed = false)
    (plain : PlainNames (names files)) (recoverable : Recoverable dir (names files) w.files)
    {e : Error} (run : (write dir files : StateM Surroundings _).run w = (.error e, out)) :
    Undisturbed dir (names files) w.files out.files := by
  have grown := FileTree.grown_makeDirectories regular dir
  intro place changed
  rcases write_cases regular run with ⟨-, ⟨-, spent⟩ | ⟨made, -, -⟩⟩ |
    ⟨w₁, d, ok, made, armed, leads, filling⟩
  · exact absurd idle spent.armed
  · rw [made] at changed ⊢
    exact .inl ((grown.new place).resolve_left changed)
  · have calm : w₁.isArmed = false := armed.trans idle
    obtain ⟨touch, outcome⟩ := fill_spec leads plain (.inr calm) (fun _ _ _ => calm) filling
    have unfilled : Unfilled dir d (names files) w₁ out := by
      rcases outcome with ⟨failed, -⟩ | ⟨-, unfilled⟩
      · cases failed
      · exact unfilled
    have rollsBack : RollsBack dir d (names files) w₁.files :=
      made ▸ recoverable ok d (made ▸ leads)
    have kept := (unfilled.kept_iff calm).mpr rollsBack
    by_cases staged : ∃ n ∈ names files, place = d ++ [tempName n] ∨ place = d ++ [backupName n]
    · exact .inr ⟨d, touch.leads, staged⟩
    · have same : out.files.entryAt place = w₁.files.entryAt place := by
        by_cases target : ∃ n ∈ names files, place = d ++ [n]
        · obtain ⟨n, hn, rfl⟩ := target
          exact kept n hn
        · refine touch.same place fun x hx => ?_
          rintro rfl
          obtain ⟨n, hn, used⟩ := List.mem_flatMap.mp hx
          simp only [namesOf, List.mem_cons, List.not_mem_nil, or_false] at used
          rcases used with rfl | rfl | rfl
          · exact target ⟨x, hn, rfl⟩
          · exact staged ⟨n, hn, .inl rfl⟩
          · exact staged ⟨n, hn, .inr rfl⟩
      rw [same, made] at changed
      obtain ⟨empty, there, q, around, at_q⟩ := (grown.new place).resolve_left changed
      refine .inl ⟨empty, by rw [same, made, there], q, around, ?_⟩
      exact (made ▸ at_q : w₁.files.IsAt q place).kept leads.regular.noLinks touch.keeps

/-- A batch that cannot be undone fails, and some target is not as it was. -/
theorem disturbed_of_not_recoverable (regular : w.files.Regular) (idle : w.isArmed = false)
    (plain : PlainNames (names files)) (harm : ¬ Recoverable dir (names files) w.files)
    {r : Except Error Unit} (run : (write dir files : StateM Surroundings _).run w = (r, out)) :
    (∃ e, r = .error e) ∧ ¬ Undisturbed dir (names files) w.files out.files := by
  have grown := FileTree.grown_makeDirectories regular dir
  obtain ⟨ok, d, leads, stuck⟩ : (w.files.makeDirectories dir).1 = .ok () ∧
      ∃ d, (w.files.makeDirectories dir).2.LeadsTo dir d ∧
        ¬ RollsBack dir d (names files) (w.files.makeDirectories dir).2 := by
    simpa [Recoverable] using harm
  rcases write_cases regular run with ⟨-, ⟨-, spent⟩ | ⟨-, failed, -⟩⟩ |
    ⟨w₁, d', -, made, armed, leads₁, filling⟩
  · exact absurd idle spent.armed
  · exact absurd ok failed
  · rw [← made] at leads stuck grown
    obtain rfl := leads₁.unique leads
    have calm : w₁.isArmed = false := armed.trans idle
    obtain ⟨touch, outcome⟩ := fill_spec leads plain (.inr calm) (fun _ _ _ => calm) filling
    rcases outcome with ⟨-, filled⟩ | ⟨failed, unfilled⟩
    · exact absurd filled.rollsBack stuck
    · refine ⟨failed, fun undisturbed => stuck ((unfilled.kept_iff calm).mp fun n hn => ?_)⟩
      -- A batch that is stuck has no directory at a target, so none was made there.
      have fillable : Fillable dir d' (names files) w₁.files := by
        refine Classical.byContradiction fun no => stuck fun yes => absurd yes no
      have leaf : w₁.files.under d' n ≠ some .directory := (fillable.target n hn).2.2
      have before : w₁.files.under d' n = w.files.under d' n := by
        rcases grown.new (d' ++ [n]) with same | ⟨-, there, -⟩
        · exact same
        · exact absurd there leaf
      refine Classical.byContradiction fun changed => ?_
      rw [before] at changed
      rcases undisturbed (d' ++ [n]) changed with ⟨-, there, -⟩ | ⟨d, here, m, hm, staged⟩
      · exact leaf (touch.under_directory.mp there)
      · obtain rfl := here.unique touch.leads
        rcases staged with equal | equal
        · exact plain.temp n hn m hm (by simpa using equal)
        · exact plain.backup n hn m hm (by simpa using equal)

end Batch

namespace Snapshot

/-- A run into a directory has failed. -/
inductive Failed (dir : Path) (s : OutputSettings) (w out : Surroundings) : Prop where
  | generate {source : PageSource} {f : FetchSettings} {layout : LayoutSettings}
      {version : String} {e : Error} :
    runIn (Snapshot.generate tell source f layout s dir version) w = (.error e, out) →
      Failed dir s w out
  | regenerate {snapshot : Path} {version : String} {e : Error} :
    runIn (Snapshot.regenerate tell snapshot s dir version) w = (.error e, out) →
      Failed dir s w out

theorem plainFiles (plain : PlainNames (fileNames s)) (c : Catalog) (m : Manifest) :
    PlainNames (names (snapshotFiles s c m)) := plain

theorem Published.undisturbed {c : Catalog} {p : Provenance} {e : Error}
    (h : Published dir s c p w (.error e) out) (regular : w.files.Regular)
    (idle : w.isArmed = false) (plain : PlainNames (fileNames s))
    (recoverable : Recoverable dir (fileNames s) w.files) :
    Undisturbed dir (fileNames s) w.files out.files := by
  obtain ⟨now, w₁, q, w₂, same, refusal, run, result, files, -⟩ := h
  have calm : w₁.isArmed = false := by rw [isArmed, refusal]; exact idle
  cases q with
  | ok => cases result
  | error e =>
    rw [files, ← same]
    rw [← same] at regular recoverable
    exact Batch.undisturbed_of_recoverable regular calm (plainFiles plain c _) recoverable run

/-- What fails leaves its directory undisturbed if the batch can be undone. -/
theorem Failed.undisturbed (h : Failed dir s w out) (regular : w.files.Regular)
    (idle : w.isArmed = false) (plain : PlainNames (fileNames s))
    (recoverable : Recoverable dir (fileNames s) w.files) :
    Undisturbed dir (fileNames s) w.files out.files := by
  have unchanged (files : out.files = w.files) :
      Undisturbed dir (fileNames s) w.files out.files :=
    fun place changed => absurd (by rw [files]) changed
  cases h with
  | generate run =>
    rcases generate_cases run with ⟨-, files⟩ | ⟨markup, c, -, -, published⟩
    · exact unchanged files
    · exact published.undisturbed regular idle plain recoverable
  | regenerate run =>
    rcases regenerate_cases run with ⟨-, files⟩ | ⟨c, -, published⟩
    · exact unchanged files
    · exact published.undisturbed regular idle plain recoverable

theorem catalogOfMarkup_empty : catalogOfMarkup {} "" = .ok ⟨[], []⟩ := by
  have page : (Html.Document.parse "").root = Page.pageWith [] := by decide +kernel
  have sections : Page.plainLayout.sections (Page.bodyOf []) = [] := rfl
  have nothing : Page.catalog {} (Page.pageWith []) = .ok (Catalog.resolved ⟨[], []⟩) :=
    Page.catalog_pageWith sections rfl
  rw [catalogOfMarkup, page, nothing]
  rfl

/-- If the batch cannot be undone, generating a snapshot of an empty page fails and disturbs the
directory. -/
theorem generate_disturbs (regular : t.Regular) (plain : PlainNames (fileNames s))
    (harm : ¬ Recoverable dir (fileNames s) t) (f : FetchSettings) (version : String) :
    ∃ e out, runIn (Snapshot.generate tell (.address "") f {} s dir version) (around t none) =
      (.error e, out) ∧ ¬ Undisturbed dir (fileNames s) t out.files := by
  obtain ⟨⟨r, out⟩, run⟩ : ∃ o, runIn (Snapshot.generate tell (.address "") f {} s dir version)
    (around t none) = o := ⟨_, rfl⟩
  obtain ⟨now, w₁, q, w₂, same, refusal, writes, result, files, -⟩ :=
    generate_published (rfl : Surroundings.page _ _ f = .ok "") catalogOfMarkup_empty run
  have calm : w₁.isArmed = false := by rw [isArmed, refusal]; rfl
  have here : w₁.files = t := same
  obtain ⟨⟨e, rfl⟩, disturbed⟩ := Batch.disturbed_of_not_recoverable (here ▸ regular) calm
    (plainFiles plain _ _) (here ▸ harm) writes
  cases result
  exact ⟨e, out, run, by rw [files, ← here]; exact disturbed⟩

/-- Failed runs never disturb a directory just if the batch can be undone there. -/
theorem undisturbed_iff_recoverable (regular : t.Regular) (plain : PlainNames (fileNames s)) :
    (∀ w out, w.files = t → w.isArmed = false → Failed dir s w out →
      Undisturbed dir (fileNames s) t out.files) ↔ Recoverable dir (fileNames s) t := by
  constructor
  · intro undisturbed
    refine Classical.byContradiction fun harm => ?_
    obtain ⟨e, out, run, disturbed⟩ := generate_disturbs regular plain harm default ""
    exact disturbed (undisturbed _ out rfl rfl (.generate run))
  · rintro recoverable w out rfl idle failed
    exact failed.undisturbed regular idle plain recoverable

theorem undisturbed_in_empty_directory :
    let t : FileTree := ⟨[(["out"], .directory)], []⟩
    ∀ w out, w.files = t → w.isArmed = false → Failed ⟨["out"]⟩ {} w out →
      Undisturbed ⟨["out"]⟩ (fileNames {}) t out.files := by
  intro t
  have regular : t.Regular := FileTree.regular_of_isRegular (by decide)
  have noUp : ".." ∉ (⟨["out"]⟩ : Path).parts := by decide
  refine (undisturbed_iff_recoverable regular (by decide)).mpr ?_
  refine recoverable_of_distinct (by decide) (apart_of_noUp regular noUp _) fun d _ n hn there => ?_
  have held := FileTree.mem_entries (by simp) there
  simp only [t, List.mem_singleton, Prod.mk.injEq, and_true] at held
  have last := congrArg List.getLast? held
  rw [List.getLast?_concat] at last
  have other : ∀ n ∈ fileNames {}, some (backupName n) ≠ ["out"].getLast? := by decide
  exact other n hn last

/-- If two dumps go by the name of a file that is there, the run fails and the file is lost. -/
theorem generate_loses_file :
    let s : OutputSettings := { typesDump := "x", operationsDump := "x" }
    let t : FileTree := ⟨[(["out"], .directory), (["out", "x"], .file "old".toUTF8)], []⟩
    PlainNames (fileNames s) ∧ t.Regular ∧
      ∃ e out, runIn (Snapshot.generate tell (.address "") default {} s ⟨["out"]⟩ "1")
        (around t none) = (.error e, out) ∧
          ¬ Undisturbed ⟨["out"]⟩ (fileNames s) t out.files := by
  intro s t
  have regular : t.Regular := FileTree.regular_of_isRegular (by decide)
  have plain : PlainNames (fileNames s) := by decide
  refine ⟨plain, regular, generate_disturbs regular plain (fun recoverable => ?_) default "1"⟩
  have there : t.isDirectory ⟨["out"]⟩ = true := by cbv
  have made := FileTree.makeDirectories_of_isDirectory regular.noLinks there
  have leads : t.LeadsTo ⟨["out"]⟩ ["out"] := ⟨regular, rfl, by cbv⟩
  have leaf (x : String) : t.under ["out"] x ≠ some .directory := by
    intro hd
    have held := FileTree.mem_entries (by simp) hd
    simp [t] at held
  have fillable : Fillable ⟨["out"]⟩ ["out"] (fileNames s) t := by
    refine ⟨by decide, fun n _ => leaf (tempName n), fun n hn => ?_⟩
    have moves : ∀ n ∈ fileNames s, n ≠ "." ∧ n ≠ ".." := by decide
    exact ⟨(moves n hn).1, (moves n hn).2, leaf n⟩
  rw [Recoverable, made] at recoverable
  have harmless := recoverable rfl ["out"] leads fillable
  have first : ¬ Clash t ["out"] [] "x" := by
    rintro (again | ⟨hd, -⟩)
    · cases again
    · exact leaf _ hd
  have second := (harmless.2 first).1 (.inl List.mem_cons_self)
  cases second.2 List.mem_cons_self

end Snapshot

end ApiReference
