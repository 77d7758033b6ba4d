import ApiReference.Proofs.Files.Directories
import ApiReference.Proofs.Outcome

/-!
How far a request to a file system reaches. Without links a path can lead to one place only, which
its text tells (`eq_goTo_of_walk`), and a request changes nothing that is neither there nor below
(`write_confined`, `removed_confined`, `renamed_confined`).
-/

namespace ApiReference

namespace FileTree

variable {t u v : FileTree} {p q : Path} {here place : Place} {steps : List String}

/-! ## Places by text -/

/-- The place that steps lead to, whatever is there. -/
def goTo (here : Place) : List String → Place
  | [] => here
  | step :: rest =>
    if step.isEmpty || step == "." then goTo here rest
    else if step == ".." then goTo here.dropLast rest
    else goTo (here ++ [step]) rest

theorem goTo_append (here : Place) (xs ys : List String) :
    goTo here (xs ++ ys) = goTo (goTo here xs) ys := by
  induction xs generalizing here with
  | nil => rfl
  | cons step rest ih =>
    rw [List.cons_append, goTo, goTo]
    split
    · exact ih here
    · split
      · exact ih here.dropLast
      · exact ih (here ++ [step])

theorem goTo_still (still : ∀ step ∈ steps, step = "" ∨ step = ".") : goTo here steps = here := by
  induction steps with
  | nil => rfl
  | cons step rest ih =>
    obtain ⟨first, later⟩ := List.forall_mem_cons.mp still
    rw [goTo, if_pos (by simpa using first)]
    exact ih later

theorem goTo_down {step : String} (named : step ≠ "") (notStill : step ≠ ".") (notUp : step ≠ "..")
    (rest : List String) : goTo here (step :: rest) = goTo (here ++ [step]) rest := by
  rw [goTo, if_neg (by simp [named, notStill]), if_neg (by simp [notUp])]

/-- No way without links ends anywhere else. -/
theorem eq_goTo_of_walk (h : t.NoLinks) {m : Bool} {links : Nat} :
    ∀ {here}, t.walk m links here steps = .ok place → place = goTo here steps := by
  induction steps with
  | nil =>
    intro here hw
    rw [walk] at hw
    cases hw
    rfl
  | cons step rest ih =>
    intro here hw
    rw [walk] at hw
    rw [goTo]
    split at hw
    · rename_i still
      rw [if_pos still]
      exact ih hw
    rename_i moves
    rw [if_neg moves]
    split at hw
    · rename_i up
      rw [if_pos up]
      exact ih hw
    rename_i down
    rw [if_neg down]
    split at hw
    · cases hw
    have ends {r : List String} (last : r.isEmpty = true) : goTo (here ++ [step]) r = here ++ [step] := by
      rw [List.isEmpty_iff.mp last]
      rfl
    simp only at hw
    split at hw
    · split at hw
      · rename_i last
        cases hw
        exact (ends (Bool.and_eq_true_iff.mp last).2).symm
      · cases hw
    · exact ih hw
    · split at hw
      · rename_i last
        cases hw
        exact (ends last).symm
      · cases hw
    · rename_i target found
      exact absurd found (h _ target)

/-- Whether a place lies below another. -/
def Below (here place : Place) : Prop := here <+: place ∧ place ≠ here

instance (here place : Place) : Decidable (Below here place) :=
  inferInstanceAs (Decidable (_ ∧ _))

theorem Below.further {below : Place} (h : Below here place) (further : place <+: below) :
    Below here below := by
  refine ⟨h.1.trans further, ?_⟩
  rintro rfl
  exact h.2 (further.eq_of_length (Nat.le_antisymm further.length_le h.1.length_le))

theorem prefix_goTo (noUp : ".." ∉ steps) : here <+: goTo here steps := by
  induction steps generalizing here with
  | nil => exact List.prefix_rfl
  | cons step rest ih =>
    have later : ".." ∉ rest := fun up => noUp (List.mem_cons_of_mem _ up)
    rw [goTo]
    split
    · exact ih later
    · split
      · rename_i up
        exact absurd (beq_iff_eq.mp up ▸ List.mem_cons_self) noUp
      · exact (List.prefix_append here [step]).trans (ih later)

/-- Steps of which none leads up and one leads down end below their start. -/
theorem below_goTo (noUp : ".." ∉ steps) (down : ∃ step ∈ steps, step ≠ "" ∧ step ≠ ".") :
    Below here (goTo here steps) := by
  induction steps generalizing here with
  | nil =>
    obtain ⟨step, none, -⟩ := down
    cases none
  | cons step rest ih =>
    have later : ".." ∉ rest := fun up => noUp (List.mem_cons_of_mem _ up)
    have notUp : step ≠ ".." := by
      rintro rfl
      exact noUp List.mem_cons_self
    by_cases still : step = "" ∨ step = "."
    · obtain ⟨other, among, named, notStill⟩ := down
      have inRest : other ∈ rest := by
        refine (List.mem_cons.mp among).resolve_left ?_
        rintro rfl
        exact still.elim named notStill
      rw [goTo, if_pos (by simpa using still)]
      exact ih later ⟨other, inRest, named, notStill⟩
    · rw [not_or] at still
      rw [goTo_down still.1 still.2 notUp]
      have next : Below here (here ++ [step]) := ⟨List.prefix_append here [step], by simp⟩
      exact next.further (prefix_goTo later)

/-- Where a path leads by its text. -/
def placeOf (t : FileTree) (p : Path) : Place := goTo (t.start p) p.parts

theorem placeOf_congr (working : u.working = t.working) (p : Path) : u.placeOf p = t.placeOf p := by
  rw [placeOf, placeOf, start, start, working]

theorem placeOf_of_locate (h : t.NoLinks) {m : Bool} (hl : t.locate m p = .ok place) :
    pathFault? p = none ∧ place = t.placeOf p := by
  rw [locate] at hl
  split at hl
  · cases hl
  · rename_i faultless
    exact ⟨faultless, eq_goTo_of_walk h hl⟩

theorem placeOf_of_lastStep (h : t.NoLinks) {atRoot : FileFault} {s : LastStep}
    (hs : t.lastStep atRoot p = .ok s) (noDots : s.isDots = false) :
    pathFault? p = none ∧ s.place = t.placeOf p := by
  have faultless : pathFault? p = none := by
    rw [lastStep] at hs
    split at hs
    · cases hs
    · assumption
  obtain ⟨before, blanks, parts, blank, solid, way⟩ := lastStep_ok hs
  simp only [LastStep.isDots, Bool.or_eq_false_iff, beq_eq_false_iff_ne] at noDots
  have around : s.directory = goTo (t.start p) before := by
    rw [eq_goTo_of_walk h way, goTo_append]
    rfl
  refine ⟨faultless, ?_⟩
  rw [placeOf, parts, goTo_append, ← around, goTo_down solid noDots.1 noDots.2,
    goTo_still fun b hb => .inl (blank b hb)]
  rfl

/-- Where a path below a directory leads by its text. -/
theorem LeadsTo.placeOf_join {dir : Path} {name : String} (h : t.LeadsTo dir here)
    (relative : (Path.ofText name).isAbsolute = false) :
    t.placeOf (dir.join name) = goTo here (Path.ofText name).parts := by
  have way := eq_goTo_of_walk h.regular.noLinks h.walk
  rw [goTo_append] at way
  have around : here = goTo (t.start dir) dir.stem := way
  rw [placeOf, start, Path.isAbsolute_join_of_relative dir relative, ← start,
    Path.join_of_relative dir relative, goTo_append, ← around]

/-- A path below a directory that goes no step further is one of that directory, as long as no
directory on the way goes. -/
theorem LeadsTo.isDirectory_join_still {dir : Path} {name : String} (h : t.LeadsTo dir here)
    (kept : t.KeepsDirectories u) (relative : (Path.ofText name).isAbsolute = false)
    (still : ∀ step ∈ (Path.ofText name).parts, step = "" ∨ step = ".")
    (faultless : pathFault? (dir.join name) = none) : u.isDirectory (dir.join name) = true := by
  have way : u.walk false linkLimit (u.start (dir.join name)) (dir.join name).parts = .ok here := by
    rw [start, Path.isAbsolute_join_of_relative dir relative, kept.working, ← start,
      Path.join_of_relative dir relative,
      walk_kept h.regular.noLinks kept _ _ _ _ _ (walk_dot h.regular.noLinks _ _ _ h.walk) h.directory]
    exact walk_still _ _ _ _ _ still
  rw [start] at way
  rw [FileTree.isDirectory, find, locate, faultless]
  simp only [way, bind, Except.bind, kept.directory _ h.directory]
  rfl

/-! ## Changes at some places -/

/-- What a change at some places leaves alone: every other place, the directory that paths start
at, and that there are no links. -/
structure Confined (S : Place → Prop) (t u : FileTree) : Prop where
  noLinks : u.NoLinks
  working : u.working = t.working
  same : ∀ place, ¬ S place → u.entryAt place = t.entryAt place

variable {S : Place → Prop}

theorem Confined.refl (h : t.NoLinks) : Confined S t t := ⟨h, rfl, fun _ _ => rfl⟩

theorem Confined.trans (h : Confined S t u) (k : Confined S u v) : Confined S t v :=
  ⟨k.noLinks, k.working.trans h.working,
    fun place outside => (k.same place outside).trans (h.same place outside)⟩

theorem confined_set (h : t.NoLinks) (hp : place ≠ []) (within : S place) {e : FileEntry}
    (noLink : ∀ target, e ≠ .link target) : Confined S t (t.set place e) := by
  refine ⟨fun other target => ?_, rfl, fun other outside => ?_⟩
  · rw [entryAt_set t hp]
    split
    · exact fun set => noLink target (Option.some.inj set)
    · exact h other target
  · rw [entryAt_set t hp, if_neg]
    rintro rfl
    exact outside within

theorem confined_erase (h : t.NoLinks) (hp : place ≠ []) (within : S place) :
    Confined S t (t.erase place) := by
  refine ⟨fun other target => ?_, rfl, fun other outside => ?_⟩
  · rw [entryAt_erase t hp]
    split
    · exact fun none => nomatch none
    · exact h other target
  · rw [entryAt_erase t hp, if_neg]
    rintro rfl
    exact outside within

/-- What is found after some entries went and others got new places was there before. -/
private theorem exists_lookup_of_moved (keep : Place → Bool) (shift : Place → Place) {e : FileEntry}
    {entries : List (Place × FileEntry)}
    (found : ((entries.filter fun (p, _) => keep p).map fun (p, e) => (shift p, e)).lookup place =
      some e) : ∃ p, keep p = true ∧ shift p = place ∧ entries.lookup p = some e := by
  induction entries with
  | nil => cases found
  | cons entry rest ih =>
    obtain ⟨p, f⟩ := entry
    cases kept : keep p with
    | false =>
      rw [List.filter_cons_of_neg (by simp [kept])] at found
      obtain ⟨other, keptOther, moved, there⟩ := ih found
      refine ⟨other, keptOther, moved, ?_⟩
      rw [List.lookup_cons, beq_false_of_ne (fun same => by simp [← same, keptOther] at kept)]
      exact there
    | true =>
      rw [List.filter_cons_of_pos (by simp [kept]), List.map_cons, List.lookup_cons] at found
      split at found
      · rename_i same
        cases found
        exact ⟨p, kept, (beq_iff_eq.mp same).symm, by simp⟩
      · rename_i different
        obtain ⟨other, keptOther, moved, there⟩ := ih found
        refine ⟨other, keptOther, moved, ?_⟩
        have apart : other ≠ p := by
          rintro rfl
          simp [moved] at different
        rw [List.lookup_cons, beq_false_of_ne apart]
        exact there

/-- Entries that go and entries that move elsewhere are not missed at a place that they never were
at. -/
private theorem lookup_of_moved (keep : Place → Bool) (shift : Place → Place)
    (entries : List (Place × FileEntry)) (kept : keep place = true)
    (only : ∀ p, shift p = place ↔ p = place) :
    ((entries.filter fun (p, _) => keep p).map fun (p, e) => (shift p, e)).lookup place =
      entries.lookup place := by
  induction entries with
  | nil => rfl
  | cons entry rest ih =>
    obtain ⟨p, f⟩ := entry
    by_cases same : place = p
    · subst same
      have stays : shift place = place := (only place).mpr rfl
      simp [kept, stays]
    · rw [List.lookup_cons, beq_false_of_ne same, ← ih]
      by_cases stays : keep p = true
      · have apart : place ≠ shift p := fun moved => same ((only p).mp moved.symm).symm
        rw [List.filter_cons_of_pos (by simp [stays]), List.map_cons, List.lookup_cons,
          beq_false_of_ne apart]
      · rw [List.filter_cons_of_neg (by simp [stays])]

/-- Where a place is found after a directory has moved. -/
def shifted (source target p : Place) : Place :=
  if source.isPrefixOf p then target ++ p.drop source.length else p

theorem entries_move (t : FileTree) (source target : Place) :
    (t.move source target).entries =
      (t.entries.filter fun (p, _) => p != target).map fun (p, e) =>
        (shifted source target p, e) := by
  rw [move]
  refine List.map_congr_left fun (p, e) _ => ?_
  simp only [shifted]
  split <;> rfl

/-- Moving a directory changes only what is at or below its old and its new place. -/
theorem confined_move (h : t.NoLinks) {source target : Place} (hs : source ≠ [])
    (fromThere : ∀ place, source <+: place → S place)
    (toThere : ∀ place, target <+: place → S place) : Confined S t (t.move source target) := by
  refine ⟨fun place link found => ?_, rfl, fun place outside => ?_⟩
  · cases place with
    | nil => cases found
    | cons step rest =>
      rw [entryAt, if_neg (by simp), entries_move] at found
      obtain ⟨p, -, moved, there⟩ := exists_lookup_of_moved (· != target) (shifted source target) found
      have named : p ≠ [] := by
        rintro rfl
        simp [shifted, hs] at moved
      refine h p link ?_
      rw [entryAt, if_neg (by simpa using named)]
      exact there
  · cases place with
    | nil => rfl
    | cons step rest =>
      have notTarget : ¬ target <+: step :: rest := fun below => outside (toThere _ below)
      have notSource : ¬ source <+: step :: rest := fun below => outside (fromThere _ below)
      rw [entryAt, entryAt, if_neg (by simp), if_neg (by simp), entries_move]
      refine lookup_of_moved (· != target) (shifted source target) t.entries ?_ fun p => ⟨fun moved => ?_, ?_⟩
      · rw [bne_iff_ne]
        rintro same
        exact notTarget (same ▸ List.prefix_rfl)
      · rw [shifted] at moved
        split at moved
        · exact absurd (moved ▸ List.prefix_append _ _) notTarget
        · exact moved
      · rintro rfl
        rw [shifted, if_neg]
        rwa [List.isPrefixOf_iff_prefix]

/-! ## Requests -/

theorem removed_ok (h : t.removed p = .ok u) :
    ∃ s, t.lastStep .isDirectory p = .ok s ∧ s.isDots = false ∧
      t.entryAt s.place ≠ some .directory ∧ u = t.erase s.place := by
  unfold removed at h
  obtain ⟨s, step, h⟩ := of_bind_ok h
  refine ⟨s, step, ?_⟩
  simp only [bind, Except.bind] at h
  split at h
  · cases h
  rename_i noDots
  split at h
  · cases h
  split at h
  · cases h
  · cases h
  · rename_i e leaf found
    split at h
    · cases h
    · cases h
      exact ⟨by simpa using noDots, by simpa [found] using leaf, rfl⟩

/-- A path is given to something else in one of two ways, if that is not there already. -/
theorem renamed_ok (h : t.renamed p q = .ok u) :
    ∃ s d, t.lastStep .busy p = .ok s ∧ t.lastStep .busy q = .ok d ∧ s.isDots = false ∧
      d.isDots = false ∧ (u = t ∨ u = t.move s.place d.place ∨
        ∃ e, t.entryAt s.place = some e ∧ u = (t.erase s.place).set d.place e) := by
  unfold renamed at h
  obtain ⟨s, source, h⟩ := of_bind_ok h
  obtain ⟨d, target, h⟩ := of_bind_ok h
  refine ⟨s, d, source, target, ?_⟩
  simp only [bind, Except.bind] at h
  split at h
  · cases h
  rename_i noDots
  have noDots : s.isDots = false ∧ d.isDots = false := by simpa using noDots
  refine ⟨noDots.1, noDots.2, ?_⟩
  split at h
  · cases h
  split at h
  · cases h
  · split at h
    · cases h
    split at h
    · cases h
      exact .inl rfl
    split at h
    · cases h
    split at h
    · cases h
      exact .inr (.inl rfl)
    · split at h
      · cases h
      · cases h
        exact .inr (.inl rfl)
    · cases h
  · rename_i e _ found
    split at h
    · cases h
    split at h
    · cases h
    split at h
    · cases h
      exact .inl rfl
    split at h
    · cases h
    · cases h
      exact .inr (.inr ⟨_, found, rfl⟩)

/-- All that a request for a path can change is among some places: none if the path names nothing,
and else what is where it leads by its text, or below. -/
def Reaches (t : FileTree) (S : Place → Prop) (p : Path) : Prop :=
  pathFault? p = none → ∀ place, t.placeOf p <+: place → S place

theorem Reaches.congr (h : t.Reaches S p) (working : u.working = t.working) : u.Reaches S p := by
  intro faultless place below
  rw [placeOf_congr working] at below
  exact h faultless place below

theorem write_confined (h : t.NoLinks) (reach : t.Reaches S p) (content : ByteArray) :
    Confined S t (t.write p content).2 := by
  rw [write]
  split
  · exact .refl h
  · rename_i place located
    obtain ⟨faultless, rfl⟩ := placeOf_of_locate h located
    split
    · exact .refl h
    · rename_i free
      refine confined_set h ?_ (reach faultless _ List.prefix_rfl) (by simp)
      intro root
      rw [root] at free
      exact free rfl

theorem write_keepsDirectories (t : FileTree) (p : Path) (content : ByteArray) :
    t.KeepsDirectories (t.write p content).2 := by
  rw [write]
  split
  · exact .refl t
  · rename_i place _
    split
    · exact .refl t
    · rename_i free
      have leaf : t.entryAt place ≠ some .directory := by
        intro there
        rw [there] at free
        exact free rfl
      have named : place ≠ [] := by
        rintro rfl
        exact leaf rfl
      exact .set named fun there => absurd there leaf

theorem removed_keepsDirectories (t : FileTree) (p : Path) :
    t.KeepsDirectories (t.change (·.removed p)).2 := by
  rw [change]
  split
  · rename_i changed removed
    obtain ⟨s, -, -, leaf, rfl⟩ := removed_ok removed
    exact .erase (by simp [LastStep.place]) leaf
  · exact .refl t

theorem removed_confined (h : t.NoLinks) (reach : t.Reaches S p) :
    Confined S t (t.change (·.removed p)).2 := by
  rw [change]
  split
  · rename_i changed removed
    obtain ⟨s, step, noDots, -, rfl⟩ := removed_ok removed
    obtain ⟨faultless, place⟩ := placeOf_of_lastStep h step noDots
    refine confined_erase h (by simp [LastStep.place]) ?_
    exact place ▸ reach faultless _ List.prefix_rfl
  · exact .refl h

theorem renamed_confined (h : t.NoLinks) (source : t.Reaches S p) (target : t.Reaches S q) :
    Confined S t (t.change (·.renamed p q)).2 := by
  rw [change]
  split
  · rename_i changed renamed
    obtain ⟨s, d, ofSource, ofTarget, noDotsS, noDotsD, outcome⟩ := renamed_ok renamed
    obtain ⟨faultlessS, placeS⟩ := placeOf_of_lastStep h ofSource noDotsS
    obtain ⟨faultlessD, placeD⟩ := placeOf_of_lastStep h ofTarget noDotsD
    have fromThere := placeS ▸ source faultlessS
    have toThere := placeD ▸ target faultlessD
    have named (s : LastStep) : s.place ≠ [] := by simp [LastStep.place]
    rcases outcome with rfl | rfl | ⟨e, found, rfl⟩
    · exact .refl h
    · exact confined_move h (named s) fromThere toThere
    · have erased : Confined S t (t.erase s.place) :=
        confined_erase h (named s) (fromThere _ List.prefix_rfl)
      refine erased.trans (confined_set erased.noLinks (named d) (toThere _ List.prefix_rfl) ?_)
      rintro target rfl
      exact h _ target found
  · exact .refl h

end FileTree

end ApiReference
