import ApiReference.Proofs.Files.Reach
import ApiReference.Proofs.Snapshot.Batch

/-!
What a batch changes outside its directory. Its requests are about three paths for each file, and
each step of a batch keeps what these requests keep. Names that do not lead up keep all three paths
inside, unless a name starts with `./`: the dot that is put before it makes that `../`
(`write_outside`).
-/

namespace ApiReference

open Surroundings

/-! ## What requests keep -/

/-- Whether a computation keeps what is so of the files, however it ends. -/
def Keeps (I : FileTree → Prop) {α : Type} (x : StateM Surroundings α) : Prop :=
  ∀ w, I w.files → I (x.run w).2.files

section

variable {I : FileTree → Prop} {α β : Type}

theorem keeps_pure (a : α) : Keeps I (pure a) := fun _ h => h

theorem Keeps.bind {x : StateM Surroundings α} {f : α → StateM Surroundings β} (h : Keeps I x)
    (k : ∀ a, Keeps I (f a)) : Keeps I (x >>= f) := by
  intro w start
  rw [run_bind]
  exact k _ _ (h w start)

theorem Keeps.and {J : FileTree → Prop} {x : StateM Surroundings α} (h : Keeps I x)
    (k : Keeps J x) : Keeps (fun t => I t ∧ J t) x :=
  fun w start => ⟨h w start.1, k w start.2⟩

theorem keeps_isThere (p : Path) : Keeps I (Files.isThere p) := fun _ h => h

/-- A request keeps what it keeps when it is served: if it is refused, no file changes. -/
theorem keeps_request {act : FileTree → Except FileFault Unit × FileTree}
    (h : ∀ t, I t → I (act t).2) :
    Keeps I (modifyGet (request act) : StateM Surroundings (Except FileFault Unit)) := by
  intro w start
  have cases := request_cases act w
  change I (request act w).2.files
  rcases cases with ⟨-, served, -⟩ | ⟨-, same, -⟩
  · rw [served]
    exact h _ start
  · rw [same]
    exact start

end

namespace Batch

/-! ## Steps of a batch -/

/-- What requests about the paths of a file keep. -/
structure KeptBy (I : FileTree → Prop) (f : Staged) : Prop where
  remove : ∀ p ∈ [f.temp, f.target, f.backup], Keeps I (Files.remove p)
  rename : ∀ p ∈ [f.temp, f.target, f.backup], ∀ q ∈ [f.temp, f.target, f.backup],
    Keeps I (Files.rename p q)

section

variable {I : FileTree → Prop} {f : Staged} {staged : List Staged}

theorem keeps_discard (h : ∀ f ∈ staged, Keeps I (Files.remove f.temp)) :
    Keeps I (discard staged) := by
  induction staged with
  | nil => exact keeps_pure ()
  | cons f rest ih =>
    obtain ⟨first, later⟩ := List.forall_mem_cons.mp h
    exact first.bind fun _ => ih later

theorem keeps_saveTarget (h : KeptBy I f) : Keeps I (saveTarget f) := by
  refine (keeps_isThere f.target).bind fun there => ?_
  cases there with
  | false => exact keeps_pure _
  | true =>
    refine (h.rename f.target (by simp) f.backup (by simp)).bind fun result => ?_
    cases result <;> exact keeps_pure _

theorem keeps_place (h : KeptBy I f) : Keeps I (place f) := by
  refine (h.rename f.temp (by simp) f.target (by simp)).bind fun result => ?_
  cases result with
  | ok => exact keeps_pure _
  | error fault =>
    refine (keeps_isThere f.backup).bind fun there => ?_
    cases there with
    | false => exact keeps_pure _
    | true => exact (h.rename f.backup (by simp) f.target (by simp)).bind fun _ => keeps_pure _

theorem keeps_commit (h : KeptBy I f) : Keeps I (commit f) := by
  rw [commit_eq]
  refine (h.remove f.backup (by simp)).bind fun _ => (keeps_saveTarget h).bind fun saved => ?_
  cases saved with
  | error e => exact keeps_pure _
  | ok => exact keeps_place h

theorem keeps_rollback (h : KeptBy I f) : Keeps I (rollback f) := by
  refine (keeps_isThere f.backup).bind fun there => ?_
  cases there with
  | false => exact (h.remove f.target (by simp)).bind fun _ => keeps_pure _
  | true => exact (h.rename f.backup (by simp) f.target (by simp)).bind fun _ => keeps_pure _

theorem keeps_rollbackAll (h : ∀ f ∈ staged, KeptBy I f) : Keeps I (rollbackAll staged) := by
  induction staged with
  | nil => exact keeps_pure ()
  | cons f rest ih =>
    obtain ⟨first, later⟩ := List.forall_mem_cons.mp h
    exact (keeps_rollback first).bind fun _ => ih later

theorem keeps_commitAll {done : List Staged} (before : ∀ f ∈ done, KeptBy I f)
    (h : ∀ f ∈ staged, KeptBy I f) : Keeps I (commitAll done staged) := by
  induction staged generalizing done with
  | nil => exact keeps_pure _
  | cons f rest ih =>
    obtain ⟨first, later⟩ := List.forall_mem_cons.mp h
    refine (keeps_commit first).bind fun result => ?_
    cases result with
    | ok => exact ih (List.forall_mem_cons.mpr ⟨first, before⟩) later
    | error e =>
      refine (keeps_rollbackAll before).bind fun _ => Keeps.bind ?_ fun _ => keeps_pure _
      exact keeps_discard fun g among => (h g among).remove g.temp (by simp)

theorem keeps_dropBackups (h : ∀ f ∈ staged, KeptBy I f) : Keeps I (dropBackups staged) := by
  induction staged with
  | nil => exact keeps_pure ()
  | cons f rest ih =>
    obtain ⟨first, later⟩ := List.forall_mem_cons.mp h
    exact (first.remove f.backup (by simp)).bind fun _ => ih later

variable {dir : Path} {files : List (String × String)}

theorem keeps_stage {done : List Staged} (before : ∀ f ∈ done, Keeps I (Files.remove f.temp))
    (write : ∀ n ∈ names files, ∀ content, Keeps I (Files.write (dir.join (tempName n)) content))
    (remove : ∀ n ∈ names files, Keeps I (Files.remove (dir.join (tempName n)))) :
    Keeps I (stage dir done files) := by
  induction files generalizing done with
  | nil => exact keeps_pure _
  | cons f rest ih =>
    obtain ⟨name, content⟩ := f
    refine (write name List.mem_cons_self _).bind fun result => ?_
    cases result with
    | error fault => exact (keeps_discard before).bind fun _ => keeps_pure _
    | ok =>
      refine ih ?_ (fun n hn => write n (List.mem_cons_of_mem _ hn)) fun n hn =>
        remove n (List.mem_cons_of_mem _ hn)
      intro f among
      rcases List.mem_append.mp among with earlier | last
      · exact before f earlier
      · rw [List.mem_singleton.mp last]
        exact remove name List.mem_cons_self

/-- If all contents are staged, it is for the files of the names. -/
theorem stage_result {done : List String} {w out : Surroundings} {staged : List Staged}
    (run : (stage dir (stagedIn dir done) files : StateM Surroundings _).run w = (.ok staged, out)) :
    staged = stagedIn dir (done ++ names files) := by
  induction files generalizing done w with
  | nil =>
    cases run
    simp [names]
  | cons f rest ih =>
    obtain ⟨name, content⟩ := f
    rw [stage, run_bind] at run
    split at run
    · rw [run_bind] at run
      cases run
    · have more : stagedIn dir done ++ [Staged.of dir name] = stagedIn dir (done ++ [name]) := by
        simp [stagedIn]
      rw [more] at run
      rw [ih run]
      simp [names]

end

/-! ## The paths of a name -/

variable {name rest mark : String}

private theorem toList_marked (name mark : String) :
    ("." ++ name ++ mark).toList = '.' :: (name.toList ++ mark.toList) := by
  simp [String.toList_append]

/-- A path that ends in more than dots ends in a step down, and leads up no further. -/
private theorem steps_of_ended (whole : '/' ∉ mark.toList) (long : 3 ≤ mark.toList.length)
    (noUp : ".." ∉ (Path.ofText rest).parts) :
    ".." ∉ (Path.ofText (rest ++ mark)).parts ∧
      ∃ step ∈ (Path.ofText (rest ++ mark)).parts, step ≠ "" ∧ step ≠ "." := by
  have uncut : ∀ c ∈ mark.toList, (c == '/') = false := by
    intro c hc
    rw [beq_eq_false_iff_ne]
    rintro rfl
    exact whole hc
  obtain ⟨pieces, last, before, after⟩ := Text.split_append_of_forall uncut rest.toList
  have short (s : String) (hs : s.toList.length < 3) : String.ofList (last ++ mark.toList) ≠ s := by
    rintro rfl
    rw [String.toList_ofList, List.length_append] at hs
    omega
  rw [Path.ofText, before] at noUp
  rw [Path.ofText, String.toList_append, after]
  simp only [List.map_append, List.map_cons, List.map_nil, List.mem_append, List.mem_singleton,
    not_or] at noUp ⊢
  exact ⟨⟨noUp.1, (short ".." (by decide)).symm⟩, _, .inr rfl, short "" (by decide),
    short "." (by decide)⟩

/-- Where a name has a first step of its own, the dot goes before that. -/
private theorem parts_marked (name mark : String) (slash : '/' ∈ name.toList) :
    ∃ first rest, name = first ++ "/" ++ rest ∧
      (Path.ofText name).parts = first :: (Path.ofText rest).parts ∧
      (Path.ofText ("." ++ name ++ mark)).parts =
        ("." ++ first) :: (Path.ofText (rest ++ mark)).parts := by
  obtain ⟨first, rest, split, whole⟩ := List.eq_append_cons_of_mem slash
  have uncut : ∀ c ∈ first, (c == '/') = false := by
    intro c hc
    rw [beq_eq_false_iff_ne]
    rintro rfl
    exact whole hc
  have uncutDot : ∀ c ∈ '.' :: first, (c == '/') = false :=
    List.forall_mem_cons.mpr ⟨rfl, uncut⟩
  refine ⟨String.ofList first, String.ofList rest, ?_, ?_, ?_⟩
  · rw [← String.toList_inj, split]
    simp [String.toList_append]
  · rw [Path.ofText, split, Text.split_append_cons (by rfl), Text.split_of_forall uncut, Path.ofText,
      String.toList_ofList]
    rfl
  · have dot : String.ofList ('.' :: first) = "." ++ String.ofList first := by
      rw [← String.toList_inj]
      simp [String.toList_append]
    have marked : ("." ++ name ++ mark).toList = ('.' :: first) ++ '/' :: (rest ++ mark.toList) := by
      rw [toList_marked, split]
      simp
    rw [Path.ofText, marked, Text.split_append_cons (by rfl), Text.split_of_forall uncutDot,
      Path.ofText, String.toList_append, String.toList_ofList, ← dot]
    rfl

theorem isAbsolute_marked (name mark : String) (whole : '/' ∉ mark.toList) :
    (Path.ofText ("." ++ name ++ mark)).isAbsolute = false := by
  by_cases slash : '/' ∈ name.toList
  · obtain ⟨first, rest, -, -, marked⟩ := parts_marked name mark slash
    rw [Path.isAbsolute, marked]
    split
    · rename_i parts
      have dot := congrArg String.toList (List.cons.inj parts).1
      simp [String.toList_append] at dot
    · rfl
  · refine Path.isAbsolute_ofText_of_whole ?_
    rw [toList_marked]
    simp [slash, whole]

/-- A path beside a name that does not lead up ends below the directory, unless the name starts with
a step to the directory itself: that becomes a step up. -/
theorem goTo_marked (here : Place) (noUp : ".." ∉ (Path.ofText name).parts)
    (whole : '/' ∉ mark.toList) (long : 3 ≤ mark.toList.length) :
    FileTree.Below here (FileTree.goTo here (Path.ofText ("." ++ name ++ mark)).parts) ∨
      ∃ rest, name = "./" ++ rest ∧ FileTree.goTo here (Path.ofText ("." ++ name ++ mark)).parts =
        FileTree.goTo here.dropLast (Path.ofText (rest ++ mark)).parts := by
  by_cases slash : '/' ∈ name.toList
  · obtain ⟨first, rest, split, parts, marked⟩ := parts_marked name mark slash
    rw [parts] at noUp
    obtain ⟨noUpRest, down⟩ := steps_of_ended whole long fun up => noUp (List.mem_cons_of_mem _ up)
    rw [marked]
    by_cases still : first = "."
    · subst still
      refine .inr ⟨rest, split, ?_⟩
      rw [FileTree.goTo, if_neg (by decide), if_pos (by decide)]
    · refine .inl (FileTree.below_goTo ?_ ?_)
      · rintro up
        rcases List.mem_cons.mp up with same | later
        · have dots : ['.', '.'] = '.' :: first.toList := by
            simpa [String.toList_append] using congrArg String.toList same
          exact still (String.toList_inj.mp (List.cons.inj dots).2.symm)
        · exact noUpRest later
      · obtain ⟨step, among, moves⟩ := down
        exact ⟨step, List.mem_cons_of_mem _ among, moves⟩
  · have single : '/' ∉ ("." ++ name ++ mark).toList := by
      rw [toList_marked]
      simp [slash, whole]
    have other (s : String) (hs : s.toList.length < 3) : "." ++ name ++ mark ≠ s := by
      rintro rfl
      rw [toList_marked, List.length_cons, List.length_append] at hs
      omega
    rw [Path.ofText_of_whole single]
    refine .inl (FileTree.below_goTo ?_ ⟨_, List.mem_singleton_self _, other "" ?_, other "." ?_⟩)
    · rw [List.mem_singleton]
      exact (other ".." (by decide)).symm
    · decide
    · decide

/-! ## Outside the directory -/

/-- At or below a place where a content is staged, or a backup kept, beside a directory: those of the
name `./` with a rest after it. -/
def Beside (here : Place) (rest : String) (place : Place) : Prop :=
  ∃ mark ∈ [".tmp", ".bak"], FileTree.goTo here.dropLast (Path.ofText (rest ++ mark)).parts <+: place

/-- Where a batch may change anything. -/
def Reached (here : Place) (names : List String) (place : Place) : Prop :=
  FileTree.Below here place ∨ ∃ rest, "./" ++ rest ∈ names ∧ Beside here rest place

variable {t u v : FileTree} {dir : Path} {here : Place} {content : String}
  {files : List (String × String)}

theorem reaches_marked (leads : t.LeadsTo dir here) (known : name ∈ names files)
    (noUp : ".." ∉ (Path.ofText name).parts) (ending : mark ∈ [".tmp", ".bak"]) :
    t.Reaches (Reached here (names files)) (dir.join ("." ++ name ++ mark)) := by
  obtain ⟨whole, long⟩ : '/' ∉ mark.toList ∧ 3 ≤ mark.toList.length := by
    simp only [List.mem_cons, List.not_mem_nil, or_false] at ending
    rcases ending with rfl | rfl <;> decide
  intro _ place below
  rw [leads.placeOf_join (isAbsolute_marked name mark whole)] at below
  rcases goTo_marked here noUp whole long with inside | ⟨rest, rfl, beside⟩
  · exact .inl (inside.further below)
  · exact .inr ⟨rest, known, mark, ending, beside ▸ below⟩

theorem reaches_name (leads : t.LeadsTo dir here) (kept : t.KeepsDirectories u)
    (relative : (Path.ofText name).isAbsolute = false) (noUp : ".." ∉ (Path.ofText name).parts)
    (free : u.isDirectory (dir.join name) = false) :
    t.Reaches (Reached here (names files)) (dir.join name) := by
  intro faultless place below
  rw [leads.placeOf_join relative] at below
  by_cases down : ∃ step ∈ (Path.ofText name).parts, step ≠ "" ∧ step ≠ "."
  · exact .inl ((FileTree.below_goTo noUp down).further below)
  · have still : ∀ step ∈ (Path.ofText name).parts, step = "" ∨ step = "." := by
      intro step among
      by_contra moves
      exact down ⟨step, among, not_or.mp moves⟩
    rw [leads.isDirectory_join_still kept relative still faultless] at free
    cases free

variable {S : Place → Prop}

theorem keeps_write_confined {p : Path} (reach : t.Reaches S p) (content : ByteArray) :
    Keeps (FileTree.Confined S t) (Files.write p content) :=
  keeps_request fun _ h =>
    h.trans (FileTree.write_confined h.noLinks (reach.congr h.working) content)

theorem keeps_remove_confined {p : Path} (reach : t.Reaches S p) :
    Keeps (FileTree.Confined S t) (Files.remove p) :=
  keeps_request fun _ h => h.trans (FileTree.removed_confined h.noLinks (reach.congr h.working))

theorem keeps_rename_confined {p q : Path} (source : t.Reaches S p) (target : t.Reaches S q) :
    Keeps (FileTree.Confined S t) (Files.rename p q) :=
  keeps_request fun _ h => h.trans
    (FileTree.renamed_confined h.noLinks (source.congr h.working) (target.congr h.working))

/-- If the three paths of a file reach only some places, so do all requests about it. -/
theorem keptBy_confined {f : Staged} (temp : t.Reaches S f.temp) (target : t.Reaches S f.target)
    (backup : t.Reaches S f.backup) : KeptBy (FileTree.Confined S t) f := by
  have reach : ∀ p ∈ [f.temp, f.target, f.backup], t.Reaches S p := by
    simp [temp, target, backup]
  exact ⟨fun p hp => keeps_remove_confined (reach p hp),
    fun p hp q hq => keeps_rename_confined (reach p hp) (reach q hq)⟩

theorem keeps_write_directories (t : FileTree) (p : Path) (content : ByteArray) :
    Keeps t.KeepsDirectories (Files.write p content) :=
  keeps_request fun u h => h.trans (u.write_keepsDirectories p content)

theorem keeps_remove_directories (t : FileTree) (p : Path) :
    Keeps t.KeepsDirectories (Files.remove p) :=
  keeps_request fun u h => h.trans (u.removed_keepsDirectories p)

/-- Filling a directory changes only what may be reached. -/
theorem fill_confined {w : Surroundings} (leads : w.files.LeadsTo dir here)
    (relative : ∀ n ∈ names files, (Path.ofText n).isAbsolute = false)
    (noUp : ∀ n ∈ names files, ".." ∉ (Path.ofText n).parts) :
    FileTree.Confined (Reached here (names files)) w.files ((fill dir files).run w).2.files := by
  have temp n (hn : n ∈ names files) :
      w.files.Reaches (Reached here (names files)) (dir.join (tempName n)) :=
    reaches_marked leads hn (noUp n hn) (by simp)
  have backup n (hn : n ∈ names files) :
      w.files.Reaches (Reached here (names files)) (dir.join (backupName n)) :=
    reaches_marked leads hn (noUp n hn) (by simp)
  -- While contents are staged no directory goes, so a target that is none then leads down.
  have staging : Keeps (fun u => FileTree.Confined (Reached here (names files)) w.files u ∧
      w.files.KeepsDirectories u) (stage dir (stagedIn dir []) files) := by
    refine keeps_stage (by simp [stagedIn]) (fun n hn content => ?_) fun n hn => ?_
    · exact (keeps_write_confined (temp n hn) content).and (keeps_write_directories _ _ content)
    · exact (keeps_remove_confined (temp n hn)).and (keeps_remove_directories _ _)
  have discarding : Keeps (FileTree.Confined (Reached here (names files)) w.files)
      (discard (stagedIn dir (names files))) := by
    refine keeps_discard fun f hf => ?_
    obtain ⟨n, hn, rfl⟩ := List.mem_map.mp hf
    exact keeps_remove_confined (temp n hn)
  rw [fill, run_bind]
  obtain ⟨⟨r, w₁⟩, staged⟩ : ∃ o, (stage dir [] files : StateM Surroundings _).run w = o := ⟨_, rfl⟩
  have kept := staging w ⟨.refl leads.regular.noLinks, .refl _⟩
  rw [stagedIn, List.map_nil, staged] at kept
  rw [staged]
  cases r with
  | error e => exact kept.1
  | ok all =>
    obtain rfl : all = stagedIn dir ([] ++ names files) := stage_result staged
    simp only [List.nil_append]
    rw [run_bind, firstBlocked?_run]
    cases blocked : (names files).find? fun n => w₁.files.isDirectory (dir.join n) with
    | some n => exact (discarding.bind fun _ => keeps_pure _) w₁ kept.1
    | none =>
      have swaps : ∀ f ∈ stagedIn dir (names files),
          KeptBy (FileTree.Confined (Reached here (names files)) w.files) f := by
        intro f hf
        obtain ⟨n, hn, rfl⟩ := List.mem_map.mp hf
        have free : w₁.files.isDirectory (dir.join n) = false := by
          simpa using List.find?_eq_none.mp blocked n hn
        exact keptBy_confined (temp n hn)
          (reaches_name leads kept.2 (relative n hn) (noUp n hn) free) (backup n hn)
      dsimp only [Option.map_none]
      refine (Keeps.bind (keeps_commitAll (by simp) swaps) fun result => ?_) w₁ kept.1
      cases result with
      | error e => exact keeps_pure _
      | ok => exact (keeps_dropBackups swaps).bind fun _ => keeps_pure _

/-! ### A batch that is blocked -/

/-- A batch of one file whose target is a directory leaves what the removal of the staged content
leaves. -/
theorem write_blocked (made : t.makeDirectories dir = (.ok (), t))
    (staged : t.write (dir.join (tempName name)) content.toUTF8 = (.ok (), u))
    (blocked : u.isDirectory (dir.join name) = true)
    (removed : u.removed (dir.join (tempName name)) = .ok v) :
    ((write dir [(name, content)] : StateM Surroundings _).run (around t none)).2.files = v := by
  have makes : (Files.makeDirectories dir : StateM Surroundings _).run (around t none) =
      ((t.makeDirectories dir).1, around (t.makeDirectories dir).2 none) := rfl
  have writes : (Files.write (dir.join (tempName name)) content.toUTF8 : StateM Surroundings _).run
      (around t none) = ((t.write (dir.join (tempName name)) content.toUTF8).1,
        around (t.write (dir.join (tempName name)) content.toUTF8).2 none) := rfl
  have removes : (Files.remove (dir.join (tempName name)) : StateM Surroundings _).run
      (around u none) = ((u.change (·.removed (dir.join (tempName name)))).1,
        around (u.change (·.removed (dir.join (tempName name)))).2 none) := rfl
  rw [made] at makes
  rw [staged] at writes
  rw [FileTree.change, removed] at removes
  have discards : (discard (stagedIn dir [name]) : StateM Surroundings _).run (around u none) =
      ((), around v none) := by
    rw [stagedIn, List.map_cons, discard, run_bind, staged_of, removes]
    rfl
  have stages : (stage dir [] [(name, content)] : StateM Surroundings _).run (around t none) =
      (.ok (stagedIn dir [name]), around u none) := by
    rw [stage, run_bind, staged_of, writes]
    rfl
  have finds : (firstBlocked? (stagedIn dir [name]) : StateM Surroundings _).run (around u none) =
      (some (Staged.of dir name), around u none) := by
    have first : [name].find? (fun n => u.isDirectory (dir.join n)) = some name := by
      simp [blocked]
    rw [firstBlocked?_run]
    exact congrArg (fun n => (n.map (Staged.of dir), around u none)) first
  rw [write_eq, run_bind, makes]
  simp only
  rw [fill, run_bind, stages]
  simp only
  rw [run_bind, finds]
  simp only
  rw [run_bind, discards]
  rfl

/-- A directory with a directory in it, and beside it a file. -/
def blockedTree : FileTree :=
  ⟨[(["d"], .directory), (["d", "x"], .directory), (["x.tmp"], .file "kept".toUTF8)], []⟩

private theorem leadsTo_blockedTree : blockedTree.LeadsTo ⟨["d"]⟩ ["d"] :=
  ⟨FileTree.regular_of_isRegular (by decide), rfl, by cbv⟩

private theorem join_tempName :
    (⟨["d"]⟩ : Path).join (tempName "./x") = ⟨["d", "..", "x.tmp"]⟩ := by decide +kernel

private theorem parts_blocked : (Path.ofText "./x").parts = [".", "x"] := by decide +kernel

/-- The file system while the content for `./x` is staged. -/
private def stagedTree : FileTree := blockedTree.set ["x.tmp"] (.file "".toUTF8)

private theorem write_blockedTree :
    blockedTree.write ⟨["d", "..", "x.tmp"]⟩ "".toUTF8 = (.ok (), stagedTree) := by
  have way : blockedTree.walk true FileTree.linkLimit [] ["d", "..", "x.tmp"] = .ok ["x.tmp"] := by
    cbv
  have faultless : FileTree.pathFault? ⟨["d", "..", "x.tmp"]⟩ = none := by decide +kernel
  have located : blockedTree.locate true ⟨["d", "..", "x.tmp"]⟩ = .ok ["x.tmp"] := by
    rw [FileTree.locate, faultless]
    exact way
  rw [FileTree.write, located]
  rfl

private theorem isDirectory_stagedTree : stagedTree.isDirectory ⟨["d", ".", "x"]⟩ = true := by
  have way : stagedTree.walk false FileTree.linkLimit [] ["d", ".", "x"] = .ok ["d", "x"] := by cbv
  have faultless : FileTree.pathFault? ⟨["d", ".", "x"]⟩ = none := by decide +kernel
  have found : stagedTree.find ⟨["d", ".", "x"]⟩ = .ok .directory := by
    rw [FileTree.find, FileTree.locate, faultless]
    show (stagedTree.walk false FileTree.linkLimit [] ["d", ".", "x"] >>= _) = _
    rw [way]
    rfl
  rw [FileTree.isDirectory, found]

private theorem removed_stagedTree :
    stagedTree.removed ⟨["d", "..", "x.tmp"]⟩ = .ok (stagedTree.erase ["x.tmp"]) := by
  have way : stagedTree.walk false FileTree.linkLimit [] ["d", "..", "."] = .ok [] := by cbv
  have faultless : FileTree.pathFault? ⟨["d", "..", "x.tmp"]⟩ = none := by decide +kernel
  have step : stagedTree.lastStep .isDirectory ⟨["d", "..", "x.tmp"]⟩ =
      .ok ⟨[], "x.tmp", false⟩ := by
    rw [FileTree.lastStep, faultless]
    show (stagedTree.walk false FileTree.linkLimit [] ["d", "..", "."] >>= _) = _
    rw [way]
    rfl
  rw [FileTree.removed, step]
  rfl

/-! ### Whole batches -/

/-- Whether it succeeds or fails, a batch of relative names that do not lead up changes nothing that
is not below its directory, except where it stages contents and keeps backups for names that start
with `./`. -/
theorem write_outside {w : Surroundings} (leads : w.files.LeadsTo dir here)
    (relative : ∀ n ∈ names files, (Path.ofText n).isAbsolute = false)
    (noUp : ∀ n ∈ names files, ".." ∉ (Path.ofText n).parts) {place : Place}
    (outside : ¬ FileTree.Below here place) :
    ((write dir files : StateM Surroundings _).run w).2.files.entryAt place =
        w.files.entryAt place ∨
      ∃ rest, "./" ++ rest ∈ names files ∧ Beside here rest place := by
  by_cases beside : ∃ rest, "./" ++ rest ∈ names files ∧ Beside here rest place
  · exact .inr beside
  · refine .inl ?_
    have cases := request_cases (FileTree.makeDirectories dir) w
    have makes : (Files.makeDirectories dir : StateM Surroundings _).run w =
      request (FileTree.makeDirectories dir) w := rfl
    rw [write_eq, run_bind, makes]
    obtain ⟨⟨r, w₁⟩, made⟩ : ∃ o, request (FileTree.makeDirectories dir) w = o := ⟨_, rfl⟩
    rw [made] at cases ⊢
    have same : w₁.files = w.files := by
      rcases cases with ⟨-, served, -⟩ | ⟨-, refused, -⟩
      · rw [served, FileTree.makeDirectories_of_leadsTo leads]
      · exact refused
    cases r with
    | error fault => exact congrArg (FileTree.entryAt · place) same
    | ok =>
      have confined := fill_confined (same ▸ leads) relative noUp
      rw [← same]
      exact confined.same place fun reached => reached.elim outside beside

theorem write_outside_blockedTree :
    blockedTree.LeadsTo ⟨["d"]⟩ ["d"] ∧
      (∀ n ∈ names [("./x", "")], (Path.ofText n).isAbsolute = false) ∧
      (∀ n ∈ names [("./x", "")], ".." ∉ (Path.ofText n).parts) ∧
      ¬ FileTree.Below ["d"] ["y"] ∧
      (((write ⟨["d"]⟩ [("./x", "")] : StateM Surroundings _).run
          (around blockedTree (some (2, .busy)))).2.files.entryAt ["y"] = blockedTree.entryAt ["y"] ∨
        ∃ rest, "./" ++ rest ∈ names [("./x", "")] ∧ Beside ["d"] rest ["y"]) := by
  have relative : ∀ n ∈ names [("./x", "")], (Path.ofText n).isAbsolute = false := by
    simp [names, Path.isAbsolute, parts_blocked]
  have noUp : ∀ n ∈ names [("./x", "")], ".." ∉ (Path.ofText n).parts := by
    simp [names, parts_blocked]
  have leads : (around blockedTree (some (2, .busy))).files.LeadsTo ⟨["d"]⟩ ["d"] :=
    leadsTo_blockedTree
  exact ⟨leads, relative, noUp, by decide, write_outside leads relative noUp (by decide)⟩

/-- A batch in one directory removes a file beside that directory, although its only name is
relative and does not lead up. -/
theorem write_removes_beside :
    blockedTree.LeadsTo ⟨["d"]⟩ ["d"] ∧
      (∀ n ∈ names [("./x", "")], (Path.ofText n).isAbsolute = false) ∧
      (∀ n ∈ names [("./x", "")], ".." ∉ (Path.ofText n).parts) ∧
      ¬ FileTree.Below ["d"] ["x.tmp"] ∧
      blockedTree.entryAt ["x.tmp"] = some (.file "kept".toUTF8) ∧
      ((write ⟨["d"]⟩ [("./x", "")] : StateM Surroundings _).run
        (around blockedTree none)).2.files.entryAt ["x.tmp"] = none := by
  refine ⟨leadsTo_blockedTree, ?_, ?_, by decide, rfl, ?_⟩
  · simp [names, Path.isAbsolute, parts_blocked]
  · simp [names, parts_blocked]
  · have made : blockedTree.makeDirectories ⟨["d"]⟩ = (.ok (), blockedTree) :=
      FileTree.makeDirectories_of_isDirectory leadsTo_blockedTree.regular.noLinks
        (leadsTo_blockedTree.isDirectory (by decide +kernel))
    have target : (⟨["d"]⟩ : Path).join "./x" = ⟨["d", ".", "x"]⟩ := by decide +kernel
    have left := write_blocked made (join_tempName ▸ write_blockedTree)
      (target ▸ isDirectory_stagedTree) (join_tempName ▸ removed_stagedTree)
    rw [left]
    rfl

end Batch

end ApiReference
