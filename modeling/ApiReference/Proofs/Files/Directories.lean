import ApiReference.Proofs.Files.Folder

/-!
Making a directory and those it lies in. Whether or not that works out, all that happens is that
directories appear where nothing was, on the way that the path names (`grown_makeDirectories`);
and if it does, the path leads to a directory (`leadsTo_of_makeDirectories`). A path that stays where
it is for some steps first is another one to the same place, until it is too long.
-/

namespace ApiReference

/-- A path, or one of those it lies in by its text. -/
inductive Path.Around (p : Path) : Path → Prop where
  | self : Around p p
  | up {q r : Path} : Around p q → q.parent? = some r → Around p r

theorem Path.Around.of_parent {p q r : Path} (h : p.parent? = some q) (around : q.Around r) :
    p.Around r := by
  induction around with
  | self => exact .up .self h
  | up _ hr ih => exact .up ih hr

namespace FileTree

variable {t u v : FileTree} {p dir : Path} {place : Place}

/-- Where a path leads to, if it leads to a directory. -/
def IsAt (t : FileTree) (p : Path) (place : Place) : Prop :=
  t.walk false linkLimit (t.start p) p.parts = .ok place ∧ t.entryAt place = some .directory

theorem IsAt.kept (h : t.IsAt p place) (noLinks : t.NoLinks) (kept : t.KeepsDirectories u) :
    u.IsAt p place := by
  have start : u.start p = t.start p := by rw [FileTree.start, kept.working, FileTree.start]
  refine ⟨?_, kept.directory place h.2⟩
  have way := walk_kept noLinks kept false linkLimit [] _ _ h.1 h.2
  rw [start]
  simpa [walk] using way

theorem IsAt.leadsTo (h : t.IsAt dir place) (regular : t.Regular) (named : dir.isEmpty = false) :
    t.LeadsTo dir place := by
  refine ⟨regular, h.2, ?_⟩
  rw [Path.stem, named]
  simp only [Bool.false_eq_true, ↓reduceIte]
  split
  · rename_i slash
    obtain ⟨before, parts⟩ := List.getLast?_eq_some_iff.mp (beq_iff_eq.mp slash)
    have way := h.1
    rw [parts, walk_append regular.noLinks _ _ (by simp)] at way
    rw [parts, List.dropLast_concat]
    cases hw : t.walk false linkLimit (t.start dir) (before ++ ["."]) with
    | error fault => rw [hw] at way; cases way
    | ok mid =>
      rw [hw] at way
      simpa [Except.bind, walk] using way
  · have way := walk_kept regular.noLinks (.refl t) false linkLimit ["."] _ _ h.1 h.2
    simpa [FileTree.walk] using way

theorem parts_stem (p : Path) : p.parts = p.stem ∨ p.parts = p.stem ++ [""] := by
  rw [Path.stem]
  split
  · rename_i empty
    exact .inr (beq_iff_eq.mp empty)
  · split
    · rename_i slash
      obtain ⟨before, parts⟩ := List.getLast?_eq_some_iff.mp (beq_iff_eq.mp slash)
      rw [parts, List.dropLast_concat]
      exact .inr rfl
    · exact .inl rfl

/-- A path that leads to a directory finds it. -/
theorem LeadsTo.isDirectory (h : t.LeadsTo dir place) (faultless : pathFault? dir = none) :
    t.isDirectory dir = true := by
  have way : t.walk false linkLimit (t.start dir) dir.parts = .ok place := by
    rcases parts_stem dir with same | slash
    · rw [same]
      exact walk_dot h.regular.noLinks _ _ _ h.walk
    · rw [slash, walk_append h.regular.noLinks _ _ (by simp), h.walk]
      show t.walk false linkLimit place [""] = .ok place
      rw [FileTree.walk, if_pos (by simp), FileTree.walk]
  rw [start] at way
  have found : t.find dir = .ok .directory := by
    rw [find, locate, faultless]
    simp only [way, bind, Except.bind, h.directory]
    rfl
  rw [FileTree.isDirectory, found]

/-- What making directories on the way of a path may do to a file system. -/
structure Grown (p : Path) (t u : FileTree) : Prop where
  regular : u.Regular
  kept : t.KeepsDirectories u
  new : ∀ place, u.entryAt place = t.entryAt place ∨
    (t.entryAt place = none ∧ u.entryAt place = some .directory ∧
      ∃ q, p.Around q ∧ u.IsAt q place)

theorem Grown.refl (h : t.Regular) : Grown p t t := ⟨h, .refl t, fun _ => .inl rfl⟩

theorem Grown.trans (h : Grown p t u) (k : Grown p u v) : Grown p t v := by
  refine ⟨k.regular, h.kept.trans k.kept, ?_⟩
  intro place
  rcases k.new place with same | ⟨free, made, q, around, at_q⟩
  · rcases h.new place with same' | ⟨free, made, q, around, at_q⟩
    · exact .inl (same.trans same')
    · exact .inr ⟨free, same.trans made, q, around, at_q.kept h.regular.noLinks k.kept⟩
  · rcases h.new place with same' | ⟨_, made', _⟩
    · exact .inr ⟨same' ▸ free, made, q, around, at_q⟩
    · rw [free] at made'
      cases made'

theorem Grown.of_parent {q : Path} (hq : p.parent? = some q) (h : Grown q t u) : Grown p t u := by
  refine ⟨h.regular, h.kept, ?_⟩
  intro place
  rcases h.new place with same | ⟨free, made, r, around, at_r⟩
  · exact .inl same
  · exact .inr ⟨free, made, r, around.of_parent hq, at_r⟩

private theorem trimSlashes_spec (parts : List String) :
    ∃ blanks : List String, parts = (Path.trimSlashes parts).1 ++ blanks ∧ (∀ b ∈ blanks, b = "") ∧
      ∀ name, (Path.trimSlashes parts).1.getLast? = some name → name ≠ "" := by
  refine ⟨(parts.reverse.takeWhile (·.isEmpty)).reverse, ?_, ?_, ?_⟩
  · simp only [Path.trimSlashes]
    rw [← List.reverse_append, List.takeWhile_append_dropWhile, List.reverse_reverse]
  · intro b hb
    have blank := List.all_takeWhile (p := (·.isEmpty)) (l := parts.reverse)
    rw [List.all_eq_true] at blank
    simpa using blank b (List.mem_reverse.mp hb)
  · intro name last
    simp only [Path.trimSlashes, List.getLast?_reverse] at last
    have solid := List.head?_dropWhile_not (fun s : String => s.isEmpty) parts.reverse
    rw [last] at solid
    simpa using solid

/-- Steps that lead nowhere stay where they start. -/
theorem walk_still (t : FileTree) (m : Bool) (links : Nat) (here : Place) (steps : List String)
    (still : ∀ step ∈ steps, step = "" ∨ step = ".") : t.walk m links here steps = .ok here := by
  induction steps with
  | nil => rw [walk]
  | cons step rest ih =>
    obtain ⟨first, later⟩ := List.forall_mem_cons.mp still
    rw [walk, if_pos (by simpa using first)]
    exact ih later

private theorem walk_into (t : FileTree) (m : Bool) (links : Nat) {here : Place} {step : String}
    {rest : List String} (solid : step ≠ "") (notStill : step ≠ ".") (notUp : step ≠ "..")
    (short : ¬ step.utf8ByteSize > nameLimit)
    (there : t.entryAt (here ++ [step]) = some .directory) :
    t.walk m links here (step :: rest) = t.walk m links (here ++ [step]) rest := by
  have moves : (step.isEmpty || step == ".") = false := by simp [solid, notStill]
  have down : (step == "..") = false := by simp [notUp]
  rw [walk, moves, down, if_neg (by simp), if_neg (by simp), if_neg short]
  simp only [there]

/-- The directory that a path lies in is there, and its last part names something. -/
theorem lastStep_ok {atRoot : FileFault} {s : LastStep} (hs : t.lastStep atRoot p = .ok s) :
    ∃ before blanks, p.parts = before ++ s.name :: blanks ∧ (∀ b ∈ blanks, b = "") ∧
      s.name ≠ "" ∧ t.walk false linkLimit (t.start p) (before ++ ["."]) = .ok s.directory := by
  obtain ⟨blanks, parts, blank, solid⟩ := trimSlashes_spec p.parts
  rw [lastStep] at hs
  split at hs
  · cases hs
  · simp only at hs
    split at hs
    · cases hs
    · rename_i name last
      simp only [bind, Except.bind] at hs
      split at hs
      · cases hs
      · rename_i d way
        cases hs
        refine ⟨(Path.trimSlashes p.parts).1.dropLast, blanks, ?_, blank, solid name last, way⟩
        obtain ⟨before, kept⟩ := List.getLast?_eq_some_iff.mp last
        rw [kept, List.dropLast_concat]
        rw [kept, List.append_assoc] at parts
        exact parts

/-- A directory at the last step of a path is where the path leads. -/
private theorem isAt_set (h : t.Regular) {atRoot : FileFault} {s : LastStep}
    (hs : t.lastStep atRoot p = .ok s) (noDots : s.isDots = false)
    (short : ¬ s.name.utf8ByteSize > nameLimit) (regular : (t.set s.place .directory).Regular)
    (kept : t.KeepsDirectories (t.set s.place .directory))
    (around : t.entryAt s.directory = some .directory) :
    (t.set s.place .directory).IsAt p s.place := by
  obtain ⟨before, blanks, parts, blank, solid, way⟩ := lastStep_ok hs
  have here : (t.set s.place .directory).entryAt s.place = some .directory := by
    have nonroot : s.place ≠ [] := by simp [LastStep.place]
    simp [entryAt_set t nonroot]
  have start : (t.set s.place .directory).start p = t.start p := rfl
  have way' := walk_kept h.noLinks kept false linkLimit [] _ _ way around
  rw [List.append_nil, walk_still _ _ _ _ [] (by simp)] at way'
  simp only [LastStep.isDots, Bool.or_eq_false_iff, beq_eq_false_iff_ne] at noDots
  refine ⟨?_, here⟩
  rw [start, parts, walk_append regular.noLinks _ _ (by simp), way']
  exact (walk_into _ _ _ solid noDots.1 noDots.2 short here).trans (walk_still _ _ _ _ _ fun b hb => .inl (blank b hb))

/-- A directory that is made is new, and its path leads to it. -/
theorem makeDirectory_ok (h : t.Regular) (made : t.makeDirectory p = .ok u) :
    Grown p t u ∧ ∃ place, u.IsAt p place := by
  rw [makeDirectory] at made
  cases hs : t.lastStep .taken p with
  | error fault => simp [hs, bind, Except.bind] at made
  | ok s =>
    obtain ⟨before, -, -, -, -, way⟩ := lastStep_ok hs
    have around : t.entryAt s.directory = some .directory := by
      refine walk_directory h linkLimit before _ way ?_
      rw [start]
      split
      · rfl
      · exact h.working
    rw [hs] at made
    simp only [bind, Except.bind] at made
    split at made
    · cases made
    rename_i noDots
    split at made
    · cases made
    rename_i checked
    split at made
    · cases made
    rename_i free
    cases made
    have short : ¬ s.name.utf8ByteSize > nameLimit := by
      intro long
      rw [LastStep.checkName, if_pos long] at checked
      cases checked
    have nonroot : s.place ≠ [] := by simp [LastStep.place]
    have kept : KeepsDirectories t (t.set s.place .directory) := .set nonroot fun _ => rfl
    have regular : (t.set s.place .directory).Regular := by
      refine h.set nonroot (by simp) ?_ fun _ => rfl
      simpa [LastStep.place] using around
    have isAt := isAt_set h hs (by simpa using noDots) short regular kept around
    refine ⟨⟨regular, kept, fun place => ?_⟩, s.place, isAt⟩
    rw [entryAt_set t nonroot]
    split
    · rename_i same
      subst same
      exact .inr ⟨free, rfl, p, .self, isAt⟩
    · exact .inl rfl

/-- A directory that is found is where the path leads. -/
theorem isAt_of_isDirectory (h : t.isDirectory p = true) :
    pathFault? p = none ∧ ∃ place, t.IsAt p place := by
  rw [isDirectory] at h
  split at h
  · rename_i found
    rw [find] at found
    cases hl : t.locate false p with
    | error fault => simp [hl, bind, Except.bind] at found
    | ok place =>
      simp only [hl, bind, Except.bind] at found
      split at found
      · rename_i e he
        cases found
        rw [locate] at hl
        split at hl
        · cases hl
        · rename_i faultless
          exact ⟨faultless, place, hl, he⟩
      · cases found
  · cases h

/-- Making directories only adds directories on the way, and ends at one if it ends well. -/
theorem makeDirectoriesUpTo_spec (depth : Nat) :
    ∀ (t : FileTree) (p : Path), t.Regular →
      Grown p t (makeDirectoriesUpTo depth t p).1 ∧
      ((makeDirectoriesUpTo depth t p).2 = .ok () → p.isEmpty = false →
        ∃ place, (makeDirectoriesUpTo depth t p).1.IsAt p place) := by
  induction depth with
  | zero =>
    intro t p h
    exact ⟨.refl h, fun done => by cases done⟩
  | succ depth ih =>
    -- A directory that is there already, or that another path led to meanwhile.
    have settled (t : FileTree) (p : Path) (fault : FileFault)
        (done : (if t.isDirectory p then .ok () else .error fault : Except FileFault Unit) = .ok ()) :
        ∃ place, t.IsAt p place := by
      split at done
      · exact (isAt_of_isDirectory (by assumption)).2
      · cases done
    intro t p h
    rw [makeDirectoriesUpTo]
    split
    · rename_i empty
      exact ⟨.refl h, fun _ named => by rw [empty] at named; cases named⟩
    · split
      · rename_i made hm
        obtain ⟨grown, isAt⟩ := makeDirectory_ok h hm
        exact ⟨grown, fun _ _ => isAt⟩
      · split
        · exact ⟨.refl h, fun done => by cases done⟩
        · rename_i around hp
          obtain ⟨grown, -⟩ := ih t around h
          split
          · rename_i u fault hu
            rw [hu] at grown
            exact ⟨grown.of_parent hp, fun done => by cases done⟩
          · rename_i u hu
            rw [hu] at grown
            have grownAround : Grown p t u := grown.of_parent hp
            split
            · rename_i made hm
              obtain ⟨grown', isAt⟩ := makeDirectory_ok grownAround.regular hm
              exact ⟨grownAround.trans grown', fun _ _ => isAt⟩
            · exact ⟨grownAround, fun done _ => settled _ _ _ done⟩
      · exact ⟨.refl h, fun done _ => settled _ _ _ done⟩

theorem grown_makeDirectories (h : t.Regular) (dir : Path) :
    Grown dir t (t.makeDirectories dir).2 :=
  (makeDirectoriesUpTo_spec _ t dir h).1

/-- A directory that has been made is where its path leads. -/
theorem leadsTo_of_makeDirectories (h : t.Regular) (made : (t.makeDirectories dir).1 = .ok ()) :
    ∃ d, (t.makeDirectories dir).2.LeadsTo dir d := by
  obtain ⟨grown, isAt⟩ := makeDirectoriesUpTo_spec (dir.parts.length + 1) t dir h
  cases named : dir.isEmpty with
  | false =>
    obtain ⟨d, hd⟩ := isAt made named
    exact ⟨d, hd.leadsTo grown.regular named⟩
  | true =>
    have parts : dir.parts = [""] := beq_iff_eq.mp named
    have start : ∀ u : FileTree, u.start dir = u.working := by
      intro u
      simp [FileTree.start, Path.isAbsolute, parts]
    have working : (t.makeDirectories dir).2.working = t.working := grown.kept.working
    refine ⟨t.working, grown.regular, grown.kept.directory _ h.working, ?_⟩
    rw [start, working, Path.stem, named]
    simp [walk]

/-- A directory that is there already is not made again. -/
theorem makeDirectory_of_isDirectory (h : t.NoLinks) (there : t.isDirectory p = true) :
    t.makeDirectory p = .error .taken := by
  obtain ⟨faultless, place, way, -⟩ := isAt_of_isDirectory there
  obtain ⟨blanks, parts, -, solid⟩ := trimSlashes_spec p.parts
  rw [makeDirectory]
  cases last : (Path.trimSlashes p.parts).1.getLast? with
  | none =>
    rw [lastStep, faultless]
    simp only [last]
    rfl
  | some name =>
    obtain ⟨before, kept⟩ := List.getLast?_eq_some_iff.mp last
    rw [kept, List.append_assoc] at parts
    rw [parts, walk_append h _ _ (by simp)] at way
    cases hw : t.walk false linkLimit (t.start p) (before ++ ["."]) with
    | error fault => rw [hw] at way; cases way
    | ok mid =>
      have found : t.lastStep .taken p = .ok ⟨mid, name, (Path.trimSlashes p.parts).2⟩ := by
        rw [start] at hw
        rw [lastStep, faultless]
        simp only [kept, List.getLast?_concat, List.dropLast_concat, hw]
        rfl
      rw [hw] at way
      simp only [Except.bind, List.singleton_append] at way
      rw [found]
      simp only [bind, Except.bind]
      split
      · rfl
      · rename_i noDots
        simp only [LastStep.isDots, Bool.or_eq_true, beq_iff_eq, not_or] at noDots
        rw [walk, if_neg (by simp [solid name last, noDots.1]), if_neg (by simp [noDots.2])] at way
        by_cases long : name.utf8ByteSize > nameLimit
        · rw [if_pos long] at way
          cases way
        · rw [if_neg long] at way
          rw [LastStep.checkName, if_neg long, LastStep.place]
          cases he : t.entryAt (mid ++ [name]) with
          | none => simp [he] at way
          | some e => rfl

/-- A directory that is there already is left as it is. -/
theorem makeDirectories_of_isDirectory (h : t.NoLinks) (there : t.isDirectory dir = true) :
    t.makeDirectories dir = (.ok (), t) := by
  rw [makeDirectories, makeDirectoriesUpTo]
  split
  · rfl
  · rw [makeDirectory_of_isDirectory h there]
    rfl

/-- Nothing is made where a path leads to a directory, even if the path names nothing. -/
theorem makeDirectories_of_leadsTo (h : t.LeadsTo dir place) : (t.makeDirectories dir).2 = t := by
  cases faulty : pathFault? dir with
  | none => rw [makeDirectories_of_isDirectory h.regular.noLinks (h.isDirectory faulty)]
  | some fault =>
    rw [makeDirectories, makeDirectoriesUpTo]
    split
    · rfl
    · rename_i named
      have refused : t.makeDirectory dir = .error fault := by
        rw [makeDirectory, lastStep, faulty]
        rfl
      have other : fault ≠ .notFound := by
        rintro rfl
        rw [pathFault?] at faulty
        split at faulty
        · cases faulty
        · split at faulty <;> cases faulty
      rw [refused]
      split
      · rename_i made
        cases made
      · rename_i missing
        exact absurd (Except.error.inj missing) other
      · rfl

/-! ## Paths that never lead up -/

/-- Whether a step leads anywhere. -/
private def moves (step : String) : Bool := !(step.isEmpty || step == ".")

/-- Without a step up, a way to a directory ends as far below its start as there are steps. -/
private theorem walk_length (h : t.NoLinks) (hd : t.entryAt place = some .directory) (links : Nat)
    {steps : List String} (noUp : ".." ∉ steps) :
    ∀ {here}, t.walk false links here steps = .ok place →
      place.length = here.length + (steps.filter moves).length := by
  induction steps with
  | nil =>
    intro here reached
    rw [walk] at reached
    cases reached
    rfl
  | cons step rest ih =>
    intro here reached
    obtain ⟨next, hs, later⟩ := step_of_walk h reached (.inr hd)
    have noUpRest : ".." ∉ rest := fun up => noUp (List.mem_cons_of_mem _ up)
    rw [ih noUpRest later]
    rcases stepTo_cases hs with ⟨still, rfl⟩ | ⟨-, up, -⟩ | ⟨still, -, -, -, rfl⟩
    · rw [List.filter_cons_of_neg (by simp [moves, still])]
    · exact absurd (beq_iff_eq.mp up ▸ List.mem_cons_self) noUp
    · rw [List.filter_cons_of_pos (by simp [moves, still]), List.length_cons, List.length_append,
        List.length_singleton]
      omega

private theorem parts_of_absolute {p : Path} (h : p.isAbsolute = true) :
    ∃ step rest, p.parts = "" :: step :: rest := by
  rw [Path.isAbsolute] at h
  split at h
  · exact ⟨_, _, by assumption⟩
  · cases h

/-- What an absolute path keeps of its steps goes on after the first slash, or it is nothing. -/
private theorem trimStill_of_absolute {p : Path} (h : p.isAbsolute = true)
    (some : Path.trimStill p.parts ≠ []) :
    ∃ step rest, Path.trimStill p.parts = "" :: step :: rest := by
  obtain ⟨step, rest, parts⟩ := parts_of_absolute h
  have lead : Path.trimStill p.parts <+: p.parts := List.rdropWhile_prefix _ _
  have solid := List.rdropWhile_last_not (fun part : String => part.isEmpty || part == ".")
    p.parts some
  change ¬ (_ = true) at solid
  cases kept : Path.trimStill p.parts with
  | nil => exact absurd kept some
  | cons first more =>
    rw [kept, parts] at lead
    obtain rfl : first = "" := (List.cons_prefix_cons.mp lead).1
    cases more with
    | nil =>
      -- The empty step before the first slash would have been trimmed.
      refine absurd ?_ solid
      have last : List.rdropWhile (fun part : String => part.isEmpty || part == ".") p.parts =
          [""] := kept
      simp [last]
    | cons next later => exact ⟨next, later, rfl⟩

/-- The path that another lies in takes some of its steps, or none. -/
private theorem parent_parts {p q : Path} (h : p.parent? = some q) :
    (p.isAbsolute = true → q.isAbsolute = true) ∧
      (q.parts.Sublist p.parts ∨ q.parts = [""] ∨ q.parts = ["", ""]) := by
  have lead : Path.trimStill p.parts <+: p.parts := List.rdropWhile_prefix _ _
  rw [Path.parent?] at h
  split at h
  · split at h
    · rename_i still
      cases h
      refine ⟨fun absolute => ?_, .inr (.inl rfl)⟩
      obtain ⟨step, rest, parts⟩ := parts_of_absolute absolute
      rw [parts] at still
      cases still
    · cases h
  · rename_i nonempty
    simp only at h
    split at h
    · rename_i single
      cases h
      refine ⟨fun absolute => ?_, .inr (.inl rfl)⟩
      obtain ⟨step, rest, kept⟩ := trimStill_of_absolute absolute nonempty
      rw [kept] at single
      cases single
    · split at h
      · cases h
        exact ⟨fun _ => rfl, .inr (.inr rfl)⟩
      · rename_i some more
        cases h
        refine ⟨fun absolute => ?_, .inl ((List.dropLast_sublist _).trans lead.sublist)⟩
        obtain ⟨step, rest, kept⟩ := trimStill_of_absolute absolute nonempty
        rw [kept, List.dropLast_cons_cons] at more ⊢
        cases rest with
        | nil => exact absurd rfl more
        | cons next rest => rfl

/-- The paths that a path without steps up lies in have none either, and lead no further. -/
private theorem around_steps {p q : Path} (h : p.Around q) (noUp : ".." ∉ p.parts) :
    ".." ∉ q.parts ∧ (p.isAbsolute = true → q.isAbsolute = true) ∧
      (q.parts.filter moves).length ≤ (p.parts.filter moves).length := by
  induction h with
  | self => exact ⟨noUp, id, Nat.le_refl _⟩
  | up _ step ih =>
    obtain ⟨noUp, absolute, short⟩ := ih
    obtain ⟨further, parts⟩ := parent_parts step
    refine ⟨?_, fun ha => further (absolute ha), Nat.le_trans ?_ short⟩
    · rcases parts with sub | none | none
      · exact fun up => noUp (sub.subset up)
      · simp [none]
      · simp [none]
    · rcases parts with sub | none | none
      · exact (sub.filter _).length_le
      · simp [none, moves]
      · simp [none, moves]

/-- Without a step up in its path, a directory lies no higher than those made on the way. -/
theorem length_le_of_around (h : t.LeadsTo dir place) (noUp : ".." ∉ dir.parts) {q : Path}
    (around : dir.Around q) {other : Place} (there : t.IsAt q other) :
    other.length ≤ place.length := by
  obtain ⟨noUp', absolute, short⟩ := around_steps around noUp
  have start : (t.start q).length ≤ (t.start dir).length := by
    rw [FileTree.start, FileTree.start]
    cases ha : dir.isAbsolute with
    | true => simp [absolute ha]
    | false => split <;> simp
  have stem : dir.stem.filter moves = dir.parts.filter moves := by
    rcases parts_stem dir with same | slash
    · rw [same]
    · simp [slash, moves]
  have noUpStem : ".." ∉ dir.stem ++ ["."] := by
    rcases parts_stem dir with same | slash
    · simp [← same, noUp]
    · rw [slash] at noUp
      simp only [List.mem_append, not_or] at noUp ⊢
      exact ⟨noUp.1, by simp⟩
  have far := walk_length h.regular.noLinks there.2 _ noUp' there.1
  have near := walk_length h.regular.noLinks h.directory _ noUpStem h.walk
  rw [List.filter_append, stem] at near
  have still : ["."].filter moves = [] := rfl
  rw [still, List.append_nil] at near
  omega

end FileTree

/-! ## Paths that stay where they are first -/

namespace Path

variable {p : Path}

/-- A path that stays where it is for some steps before it goes its way. -/
def delayed (n : Nat) (p : Path) : Path := ⟨List.replicate n "." ++ p.parts⟩

theorem delayed_succ (n : Nat) (p : Path) : delayed (n + 1) p = ⟨"." :: (delayed n p).parts⟩ := rfl

theorem delayed_parts_ne_nil (n : Nat) (steps : p.parts ≠ []) : (delayed n p).parts ≠ [] := by
  simp [delayed, steps]

theorem text_delayed_succ (n : Nat) (steps : p.parts ≠ []) :
    (delayed (n + 1) p).text = "./" ++ (delayed n p).text := by
  obtain ⟨first, later, parts⟩ := List.exists_cons_of_ne_nil (delayed_parts_ne_nil n steps)
  rw [delayed_succ, text, text, parts, String.intercalate_cons_cons]
  rfl

/-- Each step that stays is two characters of the text. -/
theorem size_text_delayed (n : Nat) (steps : p.parts ≠ []) :
    (delayed n p).text.utf8ByteSize = 2 * n + p.text.utf8ByteSize := by
  induction n with
  | zero => simp [delayed]
  | succ n ih =>
    rw [text_delayed_succ n steps, String.utf8ByteSize_append, ih]
    have two : "./".utf8ByteSize = 2 := rfl
    omega

theorem nul_mem_text_delayed (n : Nat) (steps : p.parts ≠ []) :
    '\x00' ∈ (delayed n p).text.toList ↔ '\x00' ∈ p.text.toList := by
  induction n with
  | zero => simp [delayed]
  | succ n ih => simp [text_delayed_succ n steps, ih]

theorem isEmpty_delayed (n : Nat) (named : p.isEmpty = false) (steps : p.parts ≠ []) :
    (delayed n p).isEmpty = false := by
  obtain ⟨first, later, parts⟩ := List.exists_cons_of_ne_nil steps
  cases n with
  | zero => simpa [delayed] using named
  | succ n => simp [delayed, isEmpty, List.replicate_succ]

/-- Such a path is out of reach as soon as it is too long. -/
theorem pathFault?_delayed (n : Nat) (steps : p.parts ≠ [])
    (faultless : FileTree.pathFault? p = none) :
    FileTree.pathFault? (delayed n p) =
      if 2 * n + p.text.utf8ByteSize < FileTree.pathLimit then none else some .nameTooLong := by
  rw [FileTree.pathFault?] at faultless
  split at faultless
  · cases faultless
  · rename_i clean
    split at faultless
    · cases faultless
    · rename_i nonempty
      rw [List.contains_iff_mem] at clean
      rw [FileTree.pathFault?, size_text_delayed n steps, if_neg, if_neg]
      · by_cases fits : 2 * n + p.text.utf8ByteSize < FileTree.pathLimit
        · rw [if_pos fits, if_neg (by omega)]
        · rw [if_neg fits, if_pos (by omega)]
      · rw [isEmpty_delayed n (by simpa using nonempty) steps]
        simp
      · rwa [List.contains_iff_mem, nul_mem_text_delayed n steps]

theorem isAbsolute_delayed (n : Nat) (relative : p.isAbsolute = false) :
    (delayed n p).isAbsolute = false := by
  cases n with
  | zero => simpa [delayed] using relative
  | succ n => simp [delayed, isAbsolute, List.replicate_succ]

theorem stem_delayed (n : Nat) (named : p.isEmpty = false) (steps : p.parts ≠ []) :
    (delayed n p).stem = List.replicate n "." ++ p.stem := by
  rw [stem, stem, isEmpty_delayed n named steps, named]
  have last : (delayed n p).parts.getLast? = p.parts.getLast? := by
    rw [delayed, List.getLast?_append_of_ne_nil _ steps]
  rw [last]
  simp only [Bool.false_eq_true, if_false]
  split
  · rw [delayed, List.dropLast_append_of_ne_nil steps]
  · rfl

theorem join_delayed (n : Nat) (named : p.isEmpty = false) (steps : p.parts ≠ []) {name : String}
    (whole : '/' ∉ name.toList) : (delayed n p).join name = delayed n (p.join name) := by
  rw [join_parts _ whole, join_parts _ whole, stem_delayed n named steps, delayed, List.append_assoc]

/-- What lies right below such a path is out of reach as soon as its own path is too long. -/
theorem pathFault?_join_delayed (n : Nat) (named : p.isEmpty = false) (steps : p.parts ≠ [])
    {name : String} (whole : '/' ∉ name.toList)
    (faultless : FileTree.pathFault? (p.join name) = none) :
    FileTree.pathFault? ((delayed n p).join name) =
      if 2 * n + (p.join name).text.utf8ByteSize < FileTree.pathLimit then none
      else some .nameTooLong := by
  rw [join_delayed n named steps whole]
  exact pathFault?_delayed n (by simp [join_parts p whole]) faultless

end Path

namespace FileTree

variable {t : FileTree} {dir : Path} {place : Place}

theorem walk_delayed (t : FileTree) (m : Bool) (links : Nat) (here : Place) (n : Nat)
    (steps : List String) :
    t.walk m links here (List.replicate n "." ++ steps) = t.walk m links here steps := by
  induction n with
  | zero => rfl
  | succ n ih =>
    rw [List.replicate_succ, List.cons_append, walk, if_pos (by simp)]
    exact ih

/-- A path that stays where it is first leads where it leads without that. -/
theorem LeadsTo.delayed (h : t.LeadsTo dir place) (n : Nat) (named : dir.isEmpty = false)
    (steps : dir.parts ≠ []) (relative : dir.isAbsolute = false) :
    t.LeadsTo (dir.delayed n) place := by
  refine ⟨h.regular, h.directory, ?_⟩
  have start : t.start (dir.delayed n) = t.start dir := by
    rw [FileTree.start, FileTree.start, Path.isAbsolute_delayed n relative, relative]
  rw [start, Path.stem_delayed n named steps, List.append_assoc, walk_delayed]
  exact h.walk

end FileTree

end ApiReference
