import Mathlib
import ApiReference.Files.Tree

/-!
A file system in memory as a function from places to what is there, and the way that paths lead
through it when no links are met. `walk_append` cuts a way in two; `walk_kept` says that a way to
a directory stays open while no directory on it goes.
-/

namespace ApiReference.FileTree

/-- Nothing in a file system is a link. -/
def NoLinks (t : FileTree) : Prop := ∀ place target, t.entryAt place ≠ some (.link target)

/-- A file system without links in which everything lies in a directory, the working directory
included. -/
structure Regular (t : FileTree) : Prop where
  noLinks : t.NoLinks
  parents : ∀ place, t.entryAt place ≠ none → t.entryAt place.dropLast = some .directory
  working : t.entryAt t.working = some .directory

/-- Whether everything in a file system is a directory or a file and lies in a directory. -/
def isRegular (t : FileTree) : Bool :=
  t.entries.all (fun (place, e) =>
    (match e with
      | .link _ => false
      | _ => true) && (t.entryAt place.dropLast).any FileEntry.isDirectory) &&
    (t.entryAt t.working).any FileEntry.isDirectory

private theorem mem_of_lookup {entries : List (Place × FileEntry)} {place : Place} {e : FileEntry}
    (h : entries.lookup place = some e) : (place, e) ∈ entries := by
  induction entries with
  | nil => cases h
  | cons pe rest ih =>
    obtain ⟨p, f⟩ := pe
    rw [List.lookup_cons] at h
    split at h
    · rename_i same
      cases h
      rw [beq_iff_eq.mp same]
      exact List.mem_cons_self
    · exact List.mem_cons_of_mem _ (ih h)

private theorem any_isDirectory {e : Option FileEntry} (h : e.any FileEntry.isDirectory = true) :
    e = some .directory := by
  match e, h with
  | some .directory, _ => rfl

theorem mem_entries {t : FileTree} {place : Place} {e : FileEntry} (named : place ≠ [])
    (he : t.entryAt place = some e) : (place, e) ∈ t.entries := by
  rw [entryAt, if_neg (by simpa using named)] at he
  exact mem_of_lookup he

theorem regular_of_isRegular {t : FileTree} (h : t.isRegular = true) : t.Regular := by
  obtain ⟨entries, working⟩ := Bool.and_eq_true_iff.mp h
  rw [List.all_eq_true] at entries
  have each {place : Place} {e : FileEntry} (named : place ≠ []) (he : t.entryAt place = some e) :
      (∀ target, e ≠ .link target) ∧ t.entryAt place.dropLast = some .directory := by
    obtain ⟨kind, around⟩ := Bool.and_eq_true_iff.mp (entries _ (mem_entries named he))
    refine ⟨?_, any_isDirectory around⟩
    rintro target rfl
    cases kind
  refine ⟨?_, ?_, any_isDirectory working⟩
  · intro place target he
    cases place with
    | nil => cases he
    | cons step rest => exact (each (by simp) he).1 target rfl
  · intro place there
    cases place with
    | nil => rfl
    | cons step rest =>
      obtain ⟨e, he⟩ := Option.ne_none_iff_exists'.mp there
      exact (each (by simp) he).2

/-- What is a directory in one file system is one in another, which starts at the same place. -/
structure KeepsDirectories (t u : FileTree) : Prop where
  directory : ∀ place, t.entryAt place = some .directory → u.entryAt place = some .directory
  working : u.working = t.working

theorem KeepsDirectories.refl (t : FileTree) : KeepsDirectories t t := ⟨fun _ h => h, rfl⟩

theorem KeepsDirectories.trans {t u v : FileTree} (h : KeepsDirectories t u)
    (k : KeepsDirectories u v) : KeepsDirectories t v :=
  ⟨fun place hd => k.directory place (h.directory place hd), k.working.trans h.working⟩

/-! ## What is where -/

@[simp] theorem entryAt_root (t : FileTree) : t.entryAt [] = some .directory := rfl

private theorem lookup_filter_ne (place q : Place) (entries : List (Place × FileEntry)) :
    (entries.filter fun (p, _) => p != place).lookup q =
      if q = place then none else entries.lookup q := by
  induction entries with
  | nil => simp
  | cons pe rest ih =>
    obtain ⟨p, e⟩ := pe
    by_cases hp : p = place
    · subst hp
      by_cases hq : q = p
      · simpa [hq] using ih
      · simpa [List.lookup_cons, beq_eq_false_iff_ne.mpr hq, hq] using ih
    · by_cases hq : q = p
      · subst hq
        simp [hp]
      · simp only [List.lookup_cons, List.filter_cons, bne_iff_ne, ne_eq, hp, not_false_eq_true,
          ↓reduceIte, beq_eq_false_iff_ne.mpr hq]
        simpa using ih

theorem entryAt_set (t : FileTree) {place : Place} (h : place ≠ []) (e : FileEntry) (q : Place) :
    (t.set place e).entryAt q = if q = place then some e else t.entryAt q := by
  cases q with
  | nil => simp [Ne.symm h]
  | cons step rest =>
    by_cases hq : step :: rest = place
    · subst hq
      simp [entryAt, set]
    · simp [entryAt, set, List.lookup_cons, hq, lookup_filter_ne, beq_eq_false_iff_ne.mpr hq]

theorem entryAt_erase (t : FileTree) {place : Place} (h : place ≠ []) (q : Place) :
    (t.erase place).entryAt q = if q = place then none else t.entryAt q := by
  cases q with
  | nil => simp [Ne.symm h]
  | cons step rest => simp [entryAt, erase, lookup_filter_ne]

/-! ## Changes that keep a file system regular -/

theorem Regular.set {t : FileTree} (h : t.Regular) {place : Place} (hp : place ≠ [])
    {e : FileEntry} (noLink : ∀ target, e ≠ .link target)
    (around : t.entryAt place.dropLast = some .directory)
    (stays : t.entryAt place = some .directory → e = .directory) : (t.set place e).Regular := by
  have kept : ∀ q, t.entryAt q = some .directory → (t.set place e).entryAt q = some .directory := by
    intro q hq
    rw [entryAt_set t hp]
    split
    · rename_i here
      rw [stays (here ▸ hq)]
    · exact hq
  refine ⟨?_, ?_, kept _ h.working⟩
  · intro q target
    rw [entryAt_set t hp]
    split
    · intro hq
      exact noLink target (Option.some.inj hq)
    · exact h.noLinks q target
  · intro q hq
    rw [entryAt_set t hp] at hq
    split at hq
    · rename_i here
      exact here ▸ kept _ around
    · exact kept _ (h.parents q hq)

theorem Regular.erase {t : FileTree} (h : t.Regular) {place : Place} (hp : place ≠ [])
    (leaf : t.entryAt place ≠ some .directory) : (t.erase place).Regular := by
  have kept : ∀ q, t.entryAt q = some .directory → (t.erase place).entryAt q = some .directory := by
    intro q hq
    rw [entryAt_erase t hp, if_neg]
    · exact hq
    · rintro rfl
      exact leaf hq
  refine ⟨?_, ?_, kept _ h.working⟩
  · intro q target
    rw [entryAt_erase t hp]
    split
    · simp
    · exact h.noLinks q target
  · intro q hq
    rw [entryAt_erase t hp] at hq
    split at hq
    · exact absurd rfl hq
    · exact kept _ (h.parents q hq)

theorem Regular.entry_cases {t : FileTree} (h : t.Regular) (place : Place) :
    t.entryAt place = none ∨ t.entryAt place = some .directory ∨
      ∃ content, t.entryAt place = some (.file content) := by
  cases he : t.entryAt place with
  | none => exact .inl rfl
  | some e =>
    cases e with
    | directory => exact .inr (.inl rfl)
    | file content => exact .inr (.inr ⟨content, rfl⟩)
    | link target => exact absurd he (h.noLinks place target)

/-! ## Ways without links -/

/-- The directory that a step leads to. -/
def stepTo (t : FileTree) (here : Place) (step : String) : Except FileFault Place :=
  if step.isEmpty || step == "." then .ok here
  else if step == ".." then .ok here.dropLast
  else if step.utf8ByteSize > nameLimit then .error .nameTooLong
  else match t.entryAt (here ++ [step]) with
    | none => .error .notFound
    | some .directory => .ok (here ++ [step])
    | some (.file _) => .error .notDirectory
    | some (.link _) => .error .tooManyLinks

/-- A step leads nowhere, up, or down to a directory. -/
theorem stepTo_cases {t : FileTree} {here next : Place} {step : String}
    (hs : t.stepTo here step = .ok next) :
    ((step.isEmpty || step == ".") = true ∧ next = here) ∨
    ((step.isEmpty || step == ".") = false ∧ (step == "..") = true ∧ next = here.dropLast) ∨
    ((step.isEmpty || step == ".") = false ∧ (step == "..") = false ∧
      ¬ step.utf8ByteSize > nameLimit ∧ t.entryAt (here ++ [step]) = some .directory ∧
      next = here ++ [step]) := by
  rw [stepTo] at hs
  split at hs
  · rename_i still
    cases hs
    exact .inl ⟨still, rfl⟩
  rename_i moves
  split at hs
  · rename_i up
    cases hs
    exact .inr (.inl ⟨by simpa using moves, up, rfl⟩)
  rename_i down
  split at hs
  · cases hs
  rename_i short
  split at hs
  · cases hs
  · rename_i he
    cases hs
    exact .inr (.inr ⟨by simpa using moves, by simpa using down, short, he, rfl⟩)
  · cases hs
  · cases hs

/-- A way that has more than one step leads to a directory first and goes on from there. -/
theorem walk_cons {t : FileTree} (h : t.NoLinks) (m : Bool) (links : Nat) (here : Place)
    (step : String) {rest : List String} (more : rest ≠ []) :
    t.walk m links here (step :: rest) =
      (t.stepTo here step).bind fun next => t.walk m links next rest := by
  have goesOn : rest.isEmpty = false := by simpa using more
  rw [walk, stepTo, goesOn]
  split
  · rfl
  split
  · rfl
  split
  · rfl
  simp only [Bool.and_false, Bool.false_eq_true, ↓reduceIte]
  cases he : t.entryAt (here ++ [step]) with
  | none => rfl
  | some e =>
    cases e with
    | directory => rfl
    | file content => rfl
    | link target => exact absurd he (h _ target)

/-- A step to a directory can be the first of any way. -/
theorem walk_of_step {t : FileTree} {here next : Place} {step : String}
    (hs : t.stepTo here step = .ok next) (m : Bool) (links : Nat) (rest : List String) :
    t.walk m links here (step :: rest) = t.walk m links next rest := by
  rw [walk]
  rcases stepTo_cases hs with ⟨still, rfl⟩ | ⟨moves, up, rfl⟩ | ⟨moves, down, short, he, rfl⟩
  · rw [if_pos still]
  · rw [moves, if_neg (by simp), if_pos up]
  · rw [moves, down, if_neg (by simp), if_neg (by simp), if_neg short]
    simp only [he]

/-- Every step of a way to a directory leads to one. -/
theorem step_of_walk {t : FileTree} (h : t.NoLinks) {links : Nat} {here place : Place}
    {step : String} {rest : List String} (hw : t.walk false links here (step :: rest) = .ok place)
    (hd : rest ≠ [] ∨ t.entryAt place = some .directory) :
    ∃ next, t.stepTo here step = .ok next ∧ t.walk false links next rest = .ok place := by
  cases hs : t.stepTo here step with
  | ok next => exact ⟨next, rfl, (walk_of_step hs false links rest).symm.trans hw⟩
  | error fault =>
    by_cases more : rest = []
    · -- A last step that is none to a directory ends at a file.
      subst more
      have atPlace := hd.resolve_left fun none => none rfl
      rw [stepTo] at hs
      rw [walk] at hw
      split at hs
      · cases hs
      · rename_i moves
        rw [if_neg moves] at hw
        split at hs
        · cases hs
        · rename_i down
          rw [if_neg down] at hw
          split at hs
          · rename_i long
            rw [if_pos long] at hw
            cases hw
          · rename_i short
            rw [if_neg short] at hw
            split at hs
            · rename_i he
              simp [he] at hw
            · cases hs
            · rename_i he
              simp only [he, List.isEmpty_nil, ↓reduceIte, Except.ok.injEq] at hw
              rw [← hw, he] at atPlace
              cases atPlace
            · rename_i target he
              exact absurd he (h _ target)
    · rw [walk_cons h false links here step more, hs] at hw
      cases hw

theorem stepTo_kept {t u : FileTree} (kept : KeepsDirectories t u) {here next : Place}
    {step : String} (hs : t.stepTo here step = .ok next) : u.stepTo here step = .ok next := by
  rw [stepTo]
  rcases stepTo_cases hs with ⟨still, rfl⟩ | ⟨moves, up, rfl⟩ | ⟨moves, down, short, he, rfl⟩
  · rw [if_pos still]
  · rw [moves, if_neg (by simp), if_pos up]
  · rw [moves, down, if_neg (by simp), if_neg (by simp), if_neg short]
    simp only [kept.directory _ he]

theorem stepTo_directory {t : FileTree} (h : t.Regular) {here next : Place} {step : String}
    (hs : t.stepTo here step = .ok next) (hd : t.entryAt here = some .directory) :
    t.entryAt next = some .directory := by
  rcases stepTo_cases hs with ⟨-, rfl⟩ | ⟨-, -, rfl⟩ | ⟨-, -, -, he, rfl⟩
  · exact hd
  · exact h.parents here (by simp [hd])
  · exact he

/-- A way is its first part, up to a directory, and then the rest. -/
theorem walk_append {t : FileTree} (h : t.NoLinks) (m : Bool) (links : Nat) {ys : List String}
    (hys : ys ≠ []) (xs : List String) :
    ∀ here, t.walk m links here (xs ++ ys) =
      (t.walk false links here (xs ++ ["."])).bind fun mid => t.walk m links mid ys := by
  induction xs with
  | nil =>
    intro here
    simp [walk, Except.bind]
  | cons step xs ih =>
    intro here
    rw [List.cons_append, List.cons_append, walk_cons h m links here step (by simp [hys]),
      walk_cons h false links here step (by simp)]
    cases t.stepTo here step with
    | error fault => rfl
    | ok next => exact ih next

/-- A way to a directory leads there in every file system that has all the directories, and may
go on from there. -/
theorem walk_kept {t u : FileTree} (h : t.NoLinks) (kept : KeepsDirectories t u) (m : Bool)
    (links : Nat) {place : Place} (more steps : List String) :
    ∀ here, t.walk false links here steps = .ok place → t.entryAt place = some .directory →
      u.walk m links here (steps ++ more) = u.walk m links place more := by
  induction steps with
  | nil =>
    intro here hw _
    rw [walk] at hw
    cases hw
    rfl
  | cons step rest ih =>
    intro here hw hd
    obtain ⟨next, hs, later⟩ := step_of_walk h hw (.inr hd)
    rw [List.cons_append, walk_of_step (stepTo_kept kept hs)]
    exact ih next later hd

/-- A way that may go on from its end is one to a directory, if it starts at one. -/
theorem walk_directory {t : FileTree} (h : t.Regular) (links : Nat) {place : Place}
    (steps : List String) :
    ∀ here, t.walk false links here (steps ++ ["."]) = .ok place →
      t.entryAt here = some .directory → t.entryAt place = some .directory := by
  induction steps with
  | nil =>
    intro here hw hd
    simp only [List.nil_append, walk] at hw
    cases hw
    exact hd
  | cons step steps ih =>
    intro here hw hd
    obtain ⟨next, hs, later⟩ := step_of_walk h.noLinks hw (.inl (by simp))
    exact ih next later (stepTo_directory h hs hd)

/-- Nor need a way to a directory go on. -/
theorem walk_dot {t : FileTree} (h : t.NoLinks) (links : Nat) {place : Place}
    (steps : List String) :
    ∀ here, t.walk false links here (steps ++ ["."]) = .ok place →
      t.walk false links here steps = .ok place := by
  induction steps with
  | nil =>
    intro here hw
    simpa [walk] using hw
  | cons step steps ih =>
    intro here hw
    obtain ⟨next, hs, later⟩ := step_of_walk h hw (.inl (by simp))
    rw [walk_of_step hs]
    exact ih next later

end ApiReference.FileTree
