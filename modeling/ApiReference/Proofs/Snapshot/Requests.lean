import ApiReference.Proofs.Snapshot.Surroundings

/-!
Requests about the names that a batch uses in its directory: for each file its own name, a name
beside it for the staged content and one for the backup. `Touches` is what every such request
leaves alone; `remove_spec` and `rename_spec` are all that it may do beyond that.
-/

namespace ApiReference

namespace Batch

/-- The name that the content for a file is staged under. -/
def tempName (name : String) : String := "." ++ name ++ ".tmp"

/-- The name that what a file held before is kept under. -/
def backupName (name : String) : String := "." ++ name ++ ".bak"

theorem staged_of (dir : Path) (name : String) :
    Staged.of dir name = ⟨dir.join (tempName name), dir.join name, dir.join (backupName name)⟩ :=
  rfl

/-- Names of files none of which is the name for a staged content or a backup of another. -/
structure PlainNames (names : List String) : Prop where
  fileName : ∀ n ∈ names, IsFileName n
  temp : ∀ n ∈ names, ∀ m ∈ names, n ≠ tempName m
  backup : ∀ n ∈ names, ∀ m ∈ names, n ≠ backupName m

instance (names : List String) : Decidable (PlainNames names) :=
  decidable_of_iff ((∀ n ∈ names, IsFileName n) ∧ (∀ n ∈ names, ∀ m ∈ names, n ≠ tempName m) ∧
      ∀ n ∈ names, ∀ m ∈ names, n ≠ backupName m)
    ⟨fun h => ⟨h.1, h.2.1, h.2.2⟩, fun h => ⟨h.fileName, h.temp, h.backup⟩⟩

theorem toList_tempName (name : String) :
    (tempName name).toList = '.' :: (name.toList ++ ['.', 't', 'm', 'p']) := by
  simp [tempName, String.toList_append]

theorem toList_backupName (name : String) :
    (backupName name).toList = '.' :: (name.toList ++ ['.', 'b', 'a', 'k']) := by
  simp [backupName, String.toList_append]

theorem tempName_injective {a b : String} (h : tempName a = tempName b) : a = b := by
  have lists := congrArg String.toList h
  rw [toList_tempName, toList_tempName] at lists
  exact String.toList_inj.mp (List.append_cancel_right (List.cons.inj lists).2)

theorem backupName_injective {a b : String} (h : backupName a = backupName b) : a = b := by
  have lists := congrArg String.toList h
  rw [toList_backupName, toList_backupName] at lists
  exact String.toList_inj.mp (List.append_cancel_right (List.cons.inj lists).2)

theorem tempName_ne_backupName (a b : String) : tempName a ≠ backupName b := by
  intro h
  have lists := congrArg (fun s : String => s.toList.getLast?) h
  simp [toList_tempName, toList_backupName, List.getLast?_cons, List.getLast?_append] at lists

theorem isFileName_backupName {name : String} (h : IsFileName name) :
    IsFileName (backupName name) := by
  refine ⟨fun empty => ?_, ?_⟩
  · have lists := congrArg String.toList empty
    simp [toList_backupName] at lists
  · simp [toList_backupName, h.whole]

private theorem size_tempName (name : String) :
    (tempName name).utf8ByteSize = name.utf8ByteSize + 5 := by
  simp only [tempName, String.utf8ByteSize_append]
  have dot : ".".utf8ByteSize = 1 := by decide
  have ending : ".tmp".utf8ByteSize = 4 := by decide
  omega

private theorem size_backupName (name : String) :
    (backupName name).utf8ByteSize = name.utf8ByteSize + 5 := by
  simp only [backupName, String.utf8ByteSize_append]
  have dot : ".".utf8ByteSize = 1 := by decide
  have ending : ".bak".utf8ByteSize = 4 := by decide
  omega

variable {dir : Path} {name : String}

/-- Where a content can be staged for a file, what the file held can be kept. -/
theorem isUsable_backupName (h : dir.IsUsable (tempName name)) (named : IsFileName name) :
    dir.IsUsable (backupName name) := by
  have long (s : String) (hs : s.toList.length < 5) : backupName name ≠ s := by
    rintro rfl
    rw [toList_backupName] at hs
    simp only [List.length_cons, List.length_append, List.length_nil] at hs
    omega
  refine h.shorter (isFileName_backupName named) (long _ (by decide)) (long _ (by decide)) ?_ ?_
  · exact Nat.le_of_eq ((size_backupName name).trans (size_tempName name).symm)
  · simp [toList_tempName, toList_backupName]

theorem faultless_name (h : dir.IsUsable (tempName name)) (named : IsFileName name) :
    FileTree.pathFault? (dir.join name) = none := by
  refine h.faultless_shorter named ?_ ?_
  · rw [size_tempName]
    omega
  · intro nul
    simp [toList_tempName, nul]

/-- Where a content can be staged for a file, the file can be put in its place. -/
theorem isUsable_name (h : dir.IsUsable (tempName name)) (named : IsFileName name)
    (notStill : name ≠ ".") (notUp : name ≠ "..") : dir.IsUsable name := by
  refine h.shorter named notStill notUp ?_ ?_
  · rw [size_tempName]
    omega
  · intro nul
    simp [toList_tempName, nul]

end Batch

namespace Surroundings

variable {w w' w'' : Surroundings} {dir : Path} {d : Place} {name : String}

/-- What a run about some names in a directory leaves alone: the way there, what is a directory
and what is none, and every other place. -/
structure Touches (dir : Path) (d : Place) (names : List String) (w w' : Surroundings) :
    Prop where
  leads : w'.files.LeadsTo dir d
  working : w'.files.working = w.files.working
  directory : ∀ place, w'.files.entryAt place = some .directory ↔
    w.files.entryAt place = some .directory
  same : ∀ place, (∀ n ∈ names, place ≠ d ++ [n]) →
    w'.files.entryAt place = w.files.entryAt place
  armed : w'.isArmed = true → w.isArmed = true

theorem Touches.refl (h : w.files.LeadsTo dir d) (names : List String) :
    Touches dir d names w w :=
  ⟨h, rfl, fun _ => .rfl, fun _ _ => rfl, id⟩

theorem Touches.trans {names more : List String} (h : Touches dir d names w w')
    (k : Touches dir d more w' w'') : Touches dir d (names ++ more) w w'' := by
  refine ⟨k.leads, k.working.trans h.working, fun p => (k.directory p).trans (h.directory p), ?_,
    fun armed => h.armed (k.armed armed)⟩
  intro place other
  rw [k.same place fun n hn => other n (List.mem_append_right _ hn)]
  exact h.same place fun n hn => other n (List.mem_append_left _ hn)

theorem Touches.mono {names more : List String} (h : Touches dir d names w w')
    (sub : ∀ n ∈ names, n ∈ more) : Touches dir d more w w' :=
  ⟨h.leads, h.working, h.directory, fun p other => h.same p fun n hn => other n (sub n hn), h.armed⟩

theorem Touches.under {names : List String} (h : Touches dir d names w w')
    (other : name ∉ names) : w'.files.under d name = w.files.under d name := by
  refine h.same _ fun n hn => ?_
  rintro same
  have equal : name = n := by simpa using same
  exact other (equal ▸ hn)

theorem Touches.under_directory {names : List String} (h : Touches dir d names w w') :
    w'.files.under d name = some .directory ↔ w.files.under d name = some .directory :=
  h.directory _

theorem Touches.keeps {names : List String} (h : Touches dir d names w w') :
    w.files.KeepsDirectories w'.files :=
  ⟨fun place hd => (h.directory place).mpr hd, h.working⟩

/-- A request that is served and changes what is no directory into what is none. -/
private theorem touches_of_files {names : List String} (leads : w'.files.LeadsTo dir d)
    (working : w'.files.working = w.files.working)
    (armed : w'.isArmed = true → w.isArmed = true)
    (none : ∀ n ∈ names, w.files.under d n ≠ some .directory ∧
      w'.files.under d n ≠ some .directory)
    (same : ∀ place, (∀ n ∈ names, place ≠ d ++ [n]) →
      w'.files.entryAt place = w.files.entryAt place) : Touches dir d names w w' := by
  refine ⟨leads, working, ?_, same, armed⟩
  intro place
  by_cases named : ∃ n ∈ names, place = d ++ [n]
  · obtain ⟨n, hn, rfl⟩ := named
    exact ⟨fun hd => absurd hd (none n hn).2, fun hd => absurd hd (none n hn).1⟩
  · rw [same place fun n hn equal => named ⟨n, hn, equal⟩]

/-- A refused request, or one that changes nothing. -/
theorem touches_of_same {names : List String} (h : w.files.LeadsTo dir d)
    (files : w'.files = w.files) (armed : w'.isArmed = true → w.isArmed = true) :
    Touches dir d names w w' := by
  refine ⟨files ▸ h, by rw [files], fun _ => by rw [files], fun _ _ => by rw [files], armed⟩

/-- If no refusal was to come, none is to come later. -/
theorem Touches.idle {names : List String} (h : Touches dir d names w w')
    (idle : w.isArmed = false) : w'.isArmed = false := by
  cases armed : w'.isArmed with
  | false => rfl
  | true => exact absurd (h.armed armed) (by simp [idle])

/-- Whether the one refusal came between two states. -/
def Spent (w w' : Surroundings) : Prop := w.isArmed = true ∧ w'.isArmed = false

theorem Spent.armed (h : Spent w w') : w.isArmed ≠ false := by
  simp [h.1]

/-- What comes after the refusal changes nothing about it. -/
theorem Spent.followed {names : List String} (h : Spent w w') (k : Touches dir d names w' w'') :
    Spent w w'' :=
  ⟨h.1, k.idle h.2⟩

/-- What came before the refusal changes nothing about it. -/
theorem Spent.preceded {names : List String} (h : Spent w' w'') (k : Touches dir d names w w') :
    Spent w w'' :=
  ⟨k.armed h.1, h.2⟩

theorem remove_spec (h : w.files.LeadsTo dir d) (u : dir.IsUsable name) {out : Surroundings}
    (run : ((Files.remove (dir.join name) : StateM Surroundings _).run w).2 = out) :
    Touches dir d [name] w out ∧
      ((out.files.under d name = none ∧ w.files.under d name ≠ some .directory ∧
          out.isArmed = w.isArmed) ∨
        (out.files.under d name = w.files.under d name ∧
          (w.files.under d name = some .directory ∨ Spent w out))) := by
  have cases := request_cases (FileTree.change (·.removed (dir.join name))) w
  change (request (FileTree.change (·.removed (dir.join name))) w).2 = out at run
  rw [run] at cases
  rcases cases with ⟨-, files, armed⟩ | ⟨-, files, spent⟩
  · rw [FileTree.change_removed_join h u] at files
    have still : out.isArmed = true → w.isArmed = true := fun ha => armed ▸ ha
    rcases h.under_cases name with he | he | ⟨content, he⟩ <;> rw [he] at files
    · have same : out.files = w.files := files
      exact ⟨touches_of_same h same still, .inl ⟨by rw [same, he], by simp [he], armed⟩⟩
    · have same : out.files = w.files := files
      exact ⟨touches_of_same h same still, .inr ⟨by rw [same], .inl he⟩⟩
    · have gone : out.files = w.files.erase (d ++ [name]) := files
      have leaf : w.files.under d name ≠ some .directory := by simp [he]
      refine ⟨touches_of_files (gone ▸ h.erase leaf) (by rw [gone]; rfl) still ?_ ?_,
        .inl ⟨by simp [gone], leaf, armed⟩⟩
      · intro n hn
        rw [List.mem_singleton.mp hn]
        exact ⟨leaf, by simp [gone]⟩
      · intro place other
        rw [gone, FileTree.entryAt_erase _ (by simp), if_neg (other name (by simp))]
  · exact ⟨touches_of_same h files (fun _ => spent.1), .inr ⟨by rw [files], .inr spent⟩⟩

/-- A file has got another name. -/
structure Moved (d : Place) (a b : String) (w out : Surroundings) : Prop where
  gone : out.files.under d a = none
  free : w.files.under d b ≠ some .directory
  put : ∃ content, w.files.under d a = some (.file content) ∧
    out.files.under d b = some (.file content)
  armed : out.isArmed = w.isArmed

/-- Nothing has got another name, because of a refusal or for a reason in what is there. -/
structure Stayed (d : Place) (a b : String) (w out : Surroundings) : Prop where
  source : out.files.under d a = w.files.under d a
  target : out.files.under d b = w.files.under d b
  reason : Spent w out ∨ (out.isArmed = w.isArmed ∧ (w.files.under d a = none ∨
    w.files.under d a = some .directory ∨ w.files.under d b = some .directory))

theorem rename_spec {a b : String} (h : w.files.LeadsTo dir d) (ua : dir.IsUsable a)
    (ub : dir.IsUsable b) (ne : a ≠ b)
    (blocked : w.files.under d a = some .directory →
      ∃ content, w.files.under d b = some (.file content))
    {r : Except FileFault Unit} {out : Surroundings}
    (run : (Files.rename (dir.join a) (dir.join b) : StateM Surroundings _).run w = (r, out)) :
    Touches dir d [a, b] w out ∧
      ((r = .ok () ∧ Moved d a b w out) ∨ ((∃ fault, r = .error fault) ∧ Stayed d a b w out)) := by
  have cases := request_cases (FileTree.change (·.renamed (dir.join a) (dir.join b))) w
  change request (FileTree.change (·.renamed (dir.join a) (dir.join b))) w = (r, out) at run
  rw [run] at cases
  simp only at cases
  rcases cases with ⟨result, files, armed⟩ | ⟨fault, files, spent⟩
  · have still : out.isArmed = true → w.isArmed = true := fun ha => armed ▸ ha
    have stays {fault : FileFault} (result : r = .error fault) (same : out.files = w.files)
        (reason : w.files.under d a = none ∨ w.files.under d a = some .directory ∨
          w.files.under d b = some .directory) :
        Touches dir d [a, b] w out ∧ ((r = .ok () ∧ Moved d a b w out) ∨
          ((∃ fault, r = .error fault) ∧ Stayed d a b w out)) :=
      ⟨touches_of_same h same still,
        .inr ⟨⟨fault, result⟩, by rw [same], by rw [same], .inr ⟨armed, reason⟩⟩⟩
    rcases h.under_cases a with ha | ha | ⟨content, ha⟩
    · rw [FileTree.change_renamed_join_missing h ua ub ha] at result files
      exact stays result files (.inl ha)
    · obtain ⟨content, hb⟩ := blocked ha
      rw [FileTree.change_renamed_join_directory h ua ub ne ha hb] at result files
      exact stays result files (.inr (.inl ha))
    · rw [FileTree.change_renamed_join_file h ua ub ne ha] at result files
      by_cases hb : w.files.under d b = some .directory
      · rw [hb] at result files
        exact stays result files (.inr (.inr hb))
      · have moved : out.files = (w.files.erase (d ++ [a])).set (d ++ [b]) (.file content) ∧
            r = .ok () := by
          rcases h.under_cases b with he | he | ⟨old, he⟩ <;> rw [he] at result files
          · exact ⟨files, result⟩
          · exact absurd he hb
          · exact ⟨files, result⟩
        obtain ⟨moved, result⟩ := moved
        have leaf : w.files.under d a ≠ some .directory := by simp [ha]
        have free : (w.files.erase (d ++ [a])).under d b ≠ some .directory := by
          simp [ne.symm, hb]
        have goneA : out.files.under d a = none := by simp [moved, ne]
        have putB : out.files.under d b = some (.file content) := by simp [moved]
        refine ⟨touches_of_files (moved ▸ (h.erase leaf).set_file free content)
            (by rw [moved]; rfl) still ?_ ?_,
          .inl ⟨result, goneA, hb, ⟨content, ha, putB⟩, armed⟩⟩
        · intro n hn
          simp only [List.mem_cons, List.not_mem_nil, or_false] at hn
          rcases hn with rfl | rfl
          · exact ⟨leaf, by simp [goneA]⟩
          · exact ⟨hb, by simp [putB]⟩
        · intro place other
          rw [moved, FileTree.entryAt_set _ (by simp), if_neg (other b (by simp)),
            FileTree.entryAt_erase _ (by simp), if_neg (other a (by simp))]
  · exact ⟨touches_of_same h files (fun _ => spent.1),
      .inr ⟨fault, by rw [files], by rw [files], .inl spent⟩⟩

theorem write_spec (h : w.files.LeadsTo dir d) (fileName : IsFileName name)
    (notStill : name ≠ ".") (notUp : name ≠ "..") (content : ByteArray)
    {r : Except FileFault Unit} {out : Surroundings}
    (run : (Files.write (dir.join name) content : StateM Surroundings _).run w = (r, out)) :
    Touches dir d [name] w out ∧
      ((r = .ok () ∧ dir.IsUsable name ∧ out.files.under d name = some (.file content) ∧
          out.isArmed = w.isArmed) ∨
        ((∃ fault, r = .error fault) ∧ out.files = w.files ∧
          (¬ dir.IsUsable name ∨ w.files.under d name = some .directory ∨ Spent w out))) := by
  have cases := request_cases (FileTree.write (dir.join name) content) w
  change request (FileTree.write (dir.join name) content) w = (r, out) at run
  rw [run] at cases
  simp only at cases
  rcases cases with ⟨result, files, armed⟩ | ⟨fault, files, spent⟩
  · have still : out.isArmed = true → w.isArmed = true := fun ha => armed ▸ ha
    by_cases u : dir.IsUsable name
    · rw [FileTree.write_join h u] at result files
      by_cases hd : w.files.under d name = some .directory
      · rw [hd] at result files
        exact ⟨touches_of_same h files still, .inr ⟨⟨_, result⟩, files, .inr (.inl hd)⟩⟩
      · have written : out.files = w.files.set (d ++ [name]) (.file content) ∧ r = .ok () := by
          rcases h.under_cases name with he | he | ⟨old, he⟩ <;> rw [he] at result files
          · exact ⟨files, result⟩
          · exact absurd he hd
          · exact ⟨files, result⟩
        obtain ⟨written, result⟩ := written
        refine ⟨touches_of_files (written ▸ h.set_file hd content) (by rw [written]; rfl) still
          ?_ ?_, .inl ⟨result, u, by simp [written], armed⟩⟩
        · intro n hn
          rw [List.mem_singleton.mp hn]
          exact ⟨hd, by simp [written]⟩
        · intro place other
          rw [written, FileTree.entryAt_set _ (by simp), if_neg (other name (by simp))]
    · obtain ⟨fault, refused⟩ := FileTree.write_join_unusable h fileName notStill notUp u content
      rw [refused] at result files
      exact ⟨touches_of_same h files still, .inr ⟨⟨fault, result⟩, files, .inl u⟩⟩
  · exact ⟨touches_of_same h files (fun _ => spent.1), .inr ⟨fault, files, .inr (.inr spent)⟩⟩

end Surroundings

end ApiReference
