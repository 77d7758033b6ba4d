import ApiReference.Proofs.Files.Tree
import ApiReference.Proofs.Text.Split

/-!
The files right inside one directory. If a path leads to a directory and no links are met, a
request for `dir.join name` is one about the single place `d ++ [name]`: `locate_join` and
`lastStep_join` say so, and `change_removed`, `change_renamed` and `write_join` say what the
requests that change a file system then do.
-/

namespace ApiReference

/-- A text that can be the name of a file: not empty, and in one part. -/
structure IsFileName (name : String) : Prop where
  nonempty : name ≠ ""
  whole : '/' ∉ name.toList

instance (name : String) : Decidable (IsFileName name) :=
  decidable_of_iff (name ≠ "" ∧ '/' ∉ name.toList)
    ⟨fun h => ⟨h.1, h.2⟩, fun h => ⟨h.nonempty, h.whole⟩⟩

namespace Path

/-- The parts of a path that come before the name of something below it. -/
def stem (p : Path) : List String :=
  if p.isEmpty then []
  else if p.parts.getLast? == some "" then p.parts.dropLast
  else p.parts

theorem ofText_of_whole {name : String} (h : '/' ∉ name.toList) : ofText name = ⟨[name]⟩ := by
  have whole : ∀ c ∈ name.toList, (c == '/') = false := by
    intro c hc
    rw [beq_eq_false_iff_ne]
    rintro rfl
    exact h hc
  rw [ofText, Text.split_of_forall whole]
  simp

theorem parts_ofText_ne_nil (name : String) : (ofText name).parts ≠ [] := by
  rw [ofText, ne_eq, List.map_eq_nil_iff]
  exact Text.split_ne_nil _

/-- A path below another goes its way first, and then its own. -/
theorem join_of_relative (dir : Path) {name : String} (h : (ofText name).isAbsolute = false) :
    dir.join name = ⟨dir.stem ++ (ofText name).parts⟩ := by
  rw [join]
  simp only [h, Bool.false_or, stem]
  split
  · rfl
  · split <;> rfl

theorem isAbsolute_join_of_relative (dir : Path) {name : String}
    (h : (ofText name).isAbsolute = false) : (dir.join name).isAbsolute = dir.isAbsolute := by
  rw [join_of_relative dir h]
  obtain ⟨first, later, below⟩ := List.exists_cons_of_ne_nil (parts_ofText_ne_nil name)
  have relative : isAbsolute ⟨first :: later⟩ = false := below ▸ h
  rw [below]
  obtain ⟨parts⟩ := dir
  match parts with
  | [] => simpa [stem, isEmpty, isAbsolute] using relative
  | [a] =>
    by_cases ha : a = ""
    · simpa [stem, isEmpty, isAbsolute, ha] using relative
    · simp [stem, isEmpty, isAbsolute, ha]
  | [a, b] =>
    by_cases hb : b = ""
    · by_cases ha : a = "" <;> simp [stem, isEmpty, isAbsolute, ha, hb]
    · by_cases ha : a = "" <;> simp [stem, isEmpty, isAbsolute, ha, hb]
  | a :: b :: c :: rest =>
    have two : ∃ e tail, (stem ⟨a :: b :: c :: rest⟩) = a :: e :: tail := by
      simp only [stem, isEmpty]
      split
      · simp_all
      · split
        · exact ⟨b, _, by rw [List.dropLast_cons_of_ne_nil (by simp),
            List.dropLast_cons_of_ne_nil (by simp)]⟩
        · exact ⟨b, _, rfl⟩
    obtain ⟨e, tail, he⟩ := two
    rw [he]
    by_cases ha : a = "" <;> simp [isAbsolute, ha]

theorem isAbsolute_ofText_of_whole {name : String} (h : '/' ∉ name.toList) :
    (ofText name).isAbsolute = false := by
  rw [ofText_of_whole h]
  simp [isAbsolute]

theorem join_parts (dir : Path) {name : String} (h : '/' ∉ name.toList) :
    dir.join name = ⟨dir.stem ++ [name]⟩ := by
  rw [join_of_relative dir (isAbsolute_ofText_of_whole h), ofText_of_whole h]

theorem isAbsolute_join (dir : Path) {name : String} (h : '/' ∉ name.toList) :
    (dir.join name).isAbsolute = dir.isAbsolute :=
  isAbsolute_join_of_relative dir (isAbsolute_ofText_of_whole h)

/-- What stands before the last part of a path text does not depend on that part. -/
theorem text_snoc (steps : List String) :
    ∃ before : String, ∀ name, (⟨steps ++ [name]⟩ : Path).text = before ++ name := by
  induction steps with
  | nil => exact ⟨"", fun name => by simp [text, String.intercalate_singleton]⟩
  | cons step steps ih =>
    obtain ⟨before, hb⟩ := ih
    refine ⟨step ++ "/" ++ before, fun name => ?_⟩
    have hn := hb name
    cases hs : steps ++ [name] with
    | nil => simp at hs
    | cons s rest =>
      rw [hs] at hn
      simp only [text, List.cons_append, hs, String.intercalate_cons_cons] at hn ⊢
      rw [hn]
      simp [String.append_assoc]

/-- Whether a path that lies right inside a directory can lead to a file: its last part is the
name of one, and neither that nor the whole text is too long. -/
structure IsUsable (dir : Path) (name : String) : Prop where
  fileName : IsFileName name
  notStill : name ≠ "."
  notUp : name ≠ ".."
  short : name.utf8ByteSize ≤ FileTree.nameLimit
  faultless : FileTree.pathFault? (dir.join name) = none

instance (dir : Path) (name : String) : Decidable (dir.IsUsable name) :=
  decidable_of_iff (IsFileName name ∧ name ≠ "." ∧ name ≠ ".." ∧
      name.utf8ByteSize ≤ FileTree.nameLimit ∧ FileTree.pathFault? (dir.join name) = none)
    ⟨fun h => ⟨h.1, h.2.1, h.2.2.1, h.2.2.2.1, h.2.2.2.2⟩,
      fun h => ⟨h.fileName, h.notStill, h.notUp, h.short, h.faultless⟩⟩

/-- A path without fault stays so if its last part becomes a name with no more characters. -/
theorem IsUsable.faultless_shorter {dir : Path} {long name : String} (h : dir.IsUsable long)
    (fileName : IsFileName name) (size : name.utf8ByteSize ≤ long.utf8ByteSize)
    (nul : '\x00' ∈ name.toList → '\x00' ∈ long.toList) :
    FileTree.pathFault? (dir.join name) = none := by
  obtain ⟨before, text⟩ := text_snoc dir.stem
  have faultless := h.faultless
  rw [FileTree.pathFault?, join_parts dir h.fileName.whole, text] at faultless
  rw [FileTree.pathFault?, join_parts dir fileName.whole, text]
  have named : isEmpty ⟨dir.stem ++ [name]⟩ = false := by
    simp [isEmpty, List.append_eq_singleton_iff, fileName.nonempty]
  simp only [String.toList_append, String.utf8ByteSize_append, List.contains_eq_mem,
    List.mem_append, decide_eq_true_eq] at faultless ⊢
  split at faultless
  · cases faultless
  · rename_i clean
    split at faultless
    · cases faultless
    · split at faultless
      · cases faultless
      · rename_i fits
        rw [if_neg, named, if_neg (by simp), if_neg]
        · omega
        · rintro (inBefore | inName)
          · exact clean (.inl inBefore)
          · exact clean (.inr (nul inName))

/-- A name can be used if one with the same characters and more can. -/
theorem IsUsable.shorter {dir : Path} {long name : String} (h : dir.IsUsable long)
    (fileName : IsFileName name) (notStill : name ≠ ".") (notUp : name ≠ "..")
    (size : name.utf8ByteSize ≤ long.utf8ByteSize)
    (nul : '\x00' ∈ name.toList → '\x00' ∈ long.toList) : dir.IsUsable name :=
  ⟨fileName, notStill, notUp, Nat.le_trans size h.short, h.faultless_shorter fileName size nul⟩

end Path

namespace FileTree

variable {t : FileTree} {dir : Path} {d : Place} {name : String}

/-- The place that a path starts at. -/
def start (t : FileTree) (p : Path) : Place := if p.isAbsolute then [] else t.working

/-- A path leads to a directory of a regular file system. -/
structure LeadsTo (t : FileTree) (dir : Path) (d : Place) : Prop where
  regular : t.Regular
  directory : t.entryAt d = some .directory
  walk : t.walk false linkLimit (t.start dir) (dir.stem ++ ["."]) = .ok d

/-- The way to a directory stays open in a regular file system that has all the directories. -/
theorem LeadsTo.kept {u : FileTree} (h : t.LeadsTo dir d) (kept : t.KeepsDirectories u)
    (regular : u.Regular) : u.LeadsTo dir d := by
  refine ⟨regular, kept.directory d h.directory, ?_⟩
  have start : u.start dir = t.start dir := by rw [FileTree.start, kept.working, FileTree.start]
  rw [start]
  have way := walk_kept h.regular.noLinks kept false linkLimit [] _ _ h.walk h.directory
  simpa [FileTree.walk] using way

theorem walk_join (h : t.LeadsTo dir d) (m : Bool) (whole : '/' ∉ name.toList) :
    t.walk m linkLimit (t.start (dir.join name)) (dir.join name).parts =
      t.walk m linkLimit d [name] := by
  have start : t.start (dir.join name) = t.start dir := by
    rw [FileTree.start, Path.isAbsolute_join dir whole, FileTree.start]
  rw [start, Path.join_parts dir whole, walk_append h.regular.noLinks m linkLimit (by simp), h.walk]
  rfl

theorem locate_join (h : t.LeadsTo dir d) (u : dir.IsUsable name) (m : Bool) :
    t.locate m (dir.join name) =
      match t.entryAt (d ++ [name]) with
      | none => if m then .ok (d ++ [name]) else .error .notFound
      | some _ => .ok (d ++ [name]) := by
  have way := walk_join h m u.fileName.whole
  rw [start] at way
  rw [locate, u.faultless]
  simp only
  rw [way, walk]
  have moves : (name.isEmpty || name == ".") = false := by
    simp [u.fileName.nonempty, u.notStill]
  have down : (name == "..") = false := by simp [u.notUp]
  have short : ¬ name.utf8ByteSize > nameLimit := Nat.not_lt.mpr u.short
  rw [moves, down, if_neg (by simp), if_neg (by simp), if_neg short]
  rcases h.regular.entry_cases (d ++ [name]) with he | he | ⟨content, he⟩ <;> simp [he, walk]

theorem find_join (h : t.LeadsTo dir d) (u : dir.IsUsable name) :
    t.find (dir.join name) =
      match t.entryAt (d ++ [name]) with
      | none => .error .notFound
      | some e => .ok e := by
  rw [find, locate_join h u]
  cases he : t.entryAt (d ++ [name]) with
  | none => rfl
  | some e =>
    simp only [bind, Except.bind, he]
    rfl

theorem lastStep_join (h : t.LeadsTo dir d) (u : dir.IsUsable name) (atRoot : FileFault) :
    t.lastStep atRoot (dir.join name) = .ok ⟨d, name, false⟩ := by
  have way : t.walk false linkLimit (if (dir.join name).isAbsolute then [] else t.working)
      (dir.stem ++ ["."]) = .ok d := by
    rw [Path.isAbsolute_join dir u.fileName.whole]
    exact h.walk
  have trimmed : Path.trimSlashes (dir.join name).parts = (dir.stem ++ [name], false) := by
    simp [Path.join_parts dir u.fileName.whole, Path.trimSlashes, u.fileName.nonempty]
  rw [lastStep, u.faultless]
  simp only [trimmed, List.getLast?_append, List.getLast?_singleton, Option.some_or,
    List.dropLast_concat, way]
  rfl

/-! ## What a directory holds under a name -/

/-- What a directory holds under a name. -/
def under (t : FileTree) (d : Place) (name : String) : Option FileEntry := t.entryAt (d ++ [name])

theorem LeadsTo.under_cases (h : t.LeadsTo dir d) (name : String) :
    t.under d name = none ∨ t.under d name = some .directory ∨
      ∃ content, t.under d name = some (.file content) :=
  h.regular.entry_cases _

@[simp] theorem under_set (t : FileTree) (d : Place) (name : String) (e : FileEntry)
    (other : String) :
    (t.set (d ++ [name]) e).under d other = if other = name then some e else t.under d other := by
  rw [under, entryAt_set t (by simp)]
  simp [under]

@[simp] theorem under_erase (t : FileTree) (d : Place) (name other : String) :
    (t.erase (d ++ [name])).under d other = if other = name then none else t.under d other := by
  rw [under, entryAt_erase t (by simp)]
  simp [under]

theorem KeepsDirectories.set {place : Place} (hp : place ≠ []) {e : FileEntry}
    (stays : t.entryAt place = some .directory → e = .directory) :
    t.KeepsDirectories (t.set place e) := by
  refine ⟨?_, rfl⟩
  intro q hq
  rw [entryAt_set t hp]
  split
  · rename_i here
    rw [stays (here ▸ hq)]
  · exact hq

theorem KeepsDirectories.erase {place : Place} (hp : place ≠ [])
    (leaf : t.entryAt place ≠ some .directory) : t.KeepsDirectories (t.erase place) := by
  refine ⟨?_, rfl⟩
  intro q hq
  rw [entryAt_erase t hp, if_neg]
  · exact hq
  · rintro rfl
    exact leaf hq

theorem LeadsTo.set_file (h : t.LeadsTo dir d) (free : t.under d name ≠ some .directory)
    (content : ByteArray) : (t.set (d ++ [name]) (.file content)).LeadsTo dir d := by
  have stays : t.entryAt (d ++ [name]) = some .directory → FileEntry.file content = .directory :=
    fun hd => absurd hd free
  refine h.kept (.set (by simp) stays) (h.regular.set (by simp) (by simp) ?_ stays)
  simpa using h.directory

theorem LeadsTo.erase (h : t.LeadsTo dir d) (leaf : t.under d name ≠ some .directory) :
    (t.erase (d ++ [name])).LeadsTo dir d :=
  h.kept (.erase (by simp) leaf) (h.regular.erase (by simp) leaf)

/-! ## Requests about a name -/

theorem isThere_join (h : t.LeadsTo dir d) (u : dir.IsUsable name) :
    (t.find (dir.join name)).toBool = (t.under d name).isSome := by
  rw [find_join h u, under]
  cases t.entryAt (d ++ [name]) <;> rfl

theorem isDirectory_join (h : t.LeadsTo dir d) (u : dir.IsUsable name) :
    t.isDirectory (dir.join name) = true ↔ t.under d name = some .directory := by
  rw [isDirectory, find_join h u, under]
  rcases h.regular.entry_cases (d ++ [name]) with he | he | ⟨content, he⟩ <;> simp [he]

/-- The directory itself and the one around it are directories. -/
theorem isDirectory_join_dots (h : t.LeadsTo dir d) (dots : name = "." ∨ name = "..")
    (faultless : pathFault? (dir.join name) = none) : t.isDirectory (dir.join name) = true := by
  have whole : '/' ∉ name.toList := by rcases dots with rfl | rfl <;> decide
  have way := walk_join h false whole
  rw [start] at way
  have found : ∃ place, t.walk false linkLimit d [name] = .ok place ∧
      t.entryAt place = some .directory := by
    rcases dots with rfl | rfl
    · exact ⟨d, by simp [walk], h.directory⟩
    · exact ⟨d.dropLast, by simp [walk], h.regular.parents d (by simp [h.directory])⟩
  obtain ⟨place, reached, held⟩ := found
  rw [isDirectory, find, locate, faultless]
  simp only [way, reached, bind, Except.bind, held]
  rfl

theorem read_join (h : t.LeadsTo dir d) (u : dir.IsUsable name) {content : ByteArray}
    (he : t.under d name = some (.file content)) : t.read (dir.join name) = .ok content := by
  rw [under] at he
  rw [read, find_join h u, he]

/-- A file is written unless a directory is in its place. -/
theorem write_join (h : t.LeadsTo dir d) (u : dir.IsUsable name) (content : ByteArray) :
    t.write (dir.join name) content =
      match t.under d name with
      | some .directory => (.error .isDirectory, t)
      | _ => (.ok (), t.set (d ++ [name]) (.file content)) := by
  rw [write, locate_join h u]
  rcases h.under_cases name with he | he | ⟨old, he⟩ <;>
    simp only [under] at he <;> simp [under, he, FileEntry.isDirectory]

/-- Nothing is written under a name that cannot be used. -/
theorem write_join_unusable (h : t.LeadsTo dir d) (fileName : IsFileName name)
    (notStill : name ≠ ".") (notUp : name ≠ "..") (unusable : ¬ dir.IsUsable name)
    (content : ByteArray) :
    ∃ fault, t.write (dir.join name) content = (.error fault, t) := by
  rw [write, locate]
  cases hf : pathFault? (dir.join name) with
  | some fault => exact ⟨fault, rfl⟩
  | none =>
    have long : name.utf8ByteSize > nameLimit :=
      Nat.lt_of_not_le fun short => unusable ⟨fileName, notStill, notUp, short, hf⟩
    have moves : (name.isEmpty || name == ".") = false := by simp [fileName.nonempty, notStill]
    have down : (name == "..") = false := by simp [notUp]
    have way := walk_join h true fileName.whole
    rw [start] at way
    simp only
    rw [way, walk, moves, down, if_neg (by simp), if_neg (by simp), if_pos long]
    exact ⟨_, rfl⟩

private theorem isDots_of_usable (u : dir.IsUsable name) :
    (⟨d, name, false⟩ : LastStep).isDots = false := by
  simp [LastStep.isDots, u.notStill, u.notUp]

private theorem checkName_of_usable (u : dir.IsUsable name) :
    (⟨d, name, false⟩ : LastStep).checkName = .ok () :=
  if_neg (Nat.not_lt.mpr u.short)

/-- A file is removed if there is one. -/
theorem change_removed_join (h : t.LeadsTo dir d) (u : dir.IsUsable name) :
    t.change (·.removed (dir.join name)) =
      match t.under d name with
      | none => (.error .notFound, t)
      | some .directory => (.error .isDirectory, t)
      | some _ => (.ok (), t.erase (d ++ [name])) := by
  rw [change, removed, lastStep_join h u]
  simp only [bind, Except.bind, isDots_of_usable u, checkName_of_usable u, LastStep.place]
  rcases h.under_cases name with he | he | ⟨old, he⟩ <;> simp only [under] at he <;>
    simp [under, he, pure, Except.pure, throw, throwThe, MonadExceptOf.throw]

private theorem place_ne {a b : String} (ne : a ≠ b) : (d ++ [a] == d ++ [b]) = false := by
  simpa using ne

private theorem not_below {a b : String} (ne : a ≠ b) :
    (d ++ [a]).isPrefixOf (d ++ [b]) = false := by
  rw [Bool.eq_false_iff, ne_eq, List.isPrefixOf_iff_prefix]
  intro below
  have same := below.eq_of_length (by simp)
  exact ne (by simpa using same)

/-- A file takes the place of another, but not of a directory. -/
theorem change_renamed_join_file {a b : String} (h : t.LeadsTo dir d) (ua : dir.IsUsable a)
    (ub : dir.IsUsable b) (ne : a ≠ b) {content : ByteArray}
    (he : t.under d a = some (.file content)) :
    t.change (·.renamed (dir.join a) (dir.join b)) =
      match t.under d b with
      | some .directory => (.error .isDirectory, t)
      | _ => (.ok (), (t.erase (d ++ [a])).set (d ++ [b]) (.file content)) := by
  rw [under] at he
  rw [change, renamed, lastStep_join h ua, lastStep_join h ub]
  simp only [bind, Except.bind, isDots_of_usable ua, isDots_of_usable ub, checkName_of_usable ua,
    checkName_of_usable ub, LastStep.place, he, place_ne ne, not_below ne.symm]
  rcases h.under_cases b with hb | hb | ⟨old, hb⟩ <;> simp only [under] at hb <;>
    simp [under, hb, pure, Except.pure, throw, throwThe, MonadExceptOf.throw]

theorem change_renamed_join_missing {a b : String} (h : t.LeadsTo dir d) (ua : dir.IsUsable a)
    (ub : dir.IsUsable b) (he : t.under d a = none) :
    t.change (·.renamed (dir.join a) (dir.join b)) = (.error .notFound, t) := by
  rw [under] at he
  rw [change, renamed, lastStep_join h ua, lastStep_join h ub]
  simp [bind, Except.bind, isDots_of_usable ua, isDots_of_usable ub, checkName_of_usable ua,
    LastStep.place, he, throw, throwThe, MonadExceptOf.throw]

/-- A directory does not take the place of a file. -/
theorem change_renamed_join_directory {a b : String} (h : t.LeadsTo dir d)
    (ua : dir.IsUsable a) (ub : dir.IsUsable b) (ne : a ≠ b)
    (he : t.under d a = some .directory) {content : ByteArray}
    (hb : t.under d b = some (.file content)) :
    t.change (·.renamed (dir.join a) (dir.join b)) = (.error .notDirectory, t) := by
  rw [under] at he hb
  rw [change, renamed, lastStep_join h ua, lastStep_join h ub]
  simp [bind, Except.bind, isDots_of_usable ua, isDots_of_usable ub, checkName_of_usable ua,
    checkName_of_usable ub, LastStep.place, he, hb, ne, not_below ne, throw, throwThe,
    MonadExceptOf.throw]

end FileTree

end ApiReference
