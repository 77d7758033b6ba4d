import ApiReference.Proofs.Snapshot.Swap

/-!
The stage of a batch: every content is written beside its target, or what was staged is removed
again. After that no target may be a directory.
-/

namespace ApiReference

open Surroundings

namespace Batch

variable {w out : Surroundings} {dir : Path} {d : Place}

/-- The files that names stand for in a directory. -/
def stagedIn (dir : Path) (names : List String) : List Staged := names.map (Staged.of dir)

/-- Removes the files of some names, whether they are there or not. -/
def removeNames (dir : Path) : List String → StateM Surroundings Unit
  | [] => return
  | name :: rest => do
    let _ ← Files.remove (dir.join name)
    removeNames dir rest

theorem discard_eq (dir : Path) (names : List String) :
    (discard (stagedIn dir names) : StateM Surroundings _) =
      removeNames dir (names.map tempName) := by
  induction names with
  | nil => rfl
  | cons name rest ih =>
    rw [stagedIn] at ih
    rw [stagedIn, List.map_cons, List.map_cons, discard, removeNames, ih]
    rfl

theorem dropBackups_eq (dir : Path) (names : List String) :
    (dropBackups (stagedIn dir names) : StateM Surroundings _) =
      removeNames dir (names.map backupName) := by
  induction names with
  | nil => rfl
  | cons name rest ih =>
    rw [stagedIn] at ih
    rw [stagedIn, List.map_cons, List.map_cons, dropBackups, removeNames, ih]
    rfl

/-- What is no directory is gone after its removal, unless a request was refused. -/
theorem removeNames_spec {names : List String} (h : w.files.LeadsTo dir d)
    (usable : ∀ n ∈ names, dir.IsUsable n)
    (run : ((removeNames dir names).run w).2 = out) :
    Touches dir d names w out ∧ (w.isArmed = false →
      ∀ n ∈ names, w.files.under d n ≠ some .directory → out.files.under d n = none) := by
  induction names generalizing w with
  | nil =>
    cases run
    exact ⟨.refl h [], fun _ n hn => absurd hn List.not_mem_nil⟩
  | cons name rest ih =>
    rw [removeNames, run_bind] at run
    obtain ⟨w₁, h₁⟩ : ∃ o, ((Files.remove (dir.join name) : StateM Surroundings _).run w).2 = o :=
      ⟨_, rfl⟩
    rw [h₁] at run
    obtain ⟨touch, outcome⟩ := remove_spec h (usable name List.mem_cons_self) h₁
    obtain ⟨more, gone⟩ := ih touch.leads (fun n hn => usable n (List.mem_cons_of_mem _ hn)) run
    refine ⟨touch.trans more, fun idle n hn leaf => ?_⟩
    by_cases later : n ∈ rest
    · exact gone (touch.idle idle) n later fun hd => leaf (touch.under_directory.mp hd)
    · have here : n = name := (List.mem_cons.mp hn).resolve_right later
      rw [more.under later, here]
      rcases outcome with ⟨none, -, -⟩ | ⟨-, hd | spent⟩
      · exact none
      · exact absurd (here ▸ hd) leaf
      · exact absurd idle spent.armed

/-- Every file of a batch is staged. -/
structure AllStaged (dir : Path) (d : Place) (files : List (String × String))
    (w out : Surroundings) : Prop where
  touches : Touches dir d (files.map fun f => tempName f.1) w out
  usable : ∀ f ∈ files, dir.IsUsable (tempName f.1)
  staged : ∀ f ∈ files, ∃ g ∈ files, g.1 = f.1 ∧
    out.files.under d (tempName f.1) = some (.file g.2.toUTF8)
  armed : out.isArmed = w.isArmed

/-- What was staged is removed again, because the next content could not be staged. -/
structure Discarded (dir : Path) (d : Place) (staged : List String) (next : String)
    (w out : Surroundings) : Prop where
  gone : ∀ n ∈ staged, out.files.under d (tempName n) = none
  left : ∀ n ∉ staged, out.files.under d (tempName n) = w.files.under d (tempName n)
  reason : ¬ dir.IsUsable (tempName next) ∨
    w.files.under d (tempName next) = some .directory

private theorem isFileName_tempName {name : String} (h : IsFileName name) :
    IsFileName (tempName name) ∧ tempName name ≠ "." ∧ tempName name ≠ ".." := by
  have long (s : String) (hs : s.toList.length < 5) : tempName name ≠ s := by
    rintro rfl
    rw [toList_tempName] at hs
    simp only [List.length_cons, List.length_append, List.length_nil] at hs
    omega
  refine ⟨⟨long "" (by decide), ?_⟩, long _ (by decide), long _ (by decide)⟩
  simp [toList_tempName, h.whole]

variable {w₁ : Surroundings} {name content : String} {files : List (String × String)}

/-- One more file is staged, before the others. -/
private theorem AllStaged.cons (touch : Touches dir d [tempName name] w w₁)
    (u : dir.IsUsable (tempName name))
    (written : w₁.files.under d (tempName name) = some (.file content.toUTF8))
    (armed : w₁.isArmed = w.isArmed) (all : AllStaged dir d files w₁ out) :
    AllStaged dir d ((name, content) :: files) w out := by
  refine ⟨touch.trans all.touches, ?_, ?_, all.armed.trans armed⟩
  · intro f hf
    rcases List.mem_cons.mp hf with rfl | later
    · exact u
    · exact all.usable f later
  · intro f hf
    -- The last content for a name is the one that stays.
    by_cases later : ∃ k ∈ files, k.1 = f.1
    · obtain ⟨k, hk, equal⟩ := later
      obtain ⟨l, hl, same, put⟩ := all.staged k hk
      exact ⟨l, List.mem_cons_of_mem _ hl, same.trans equal, equal ▸ put⟩
    · have here : f = (name, content) :=
        (List.mem_cons.mp hf).resolve_right fun hr => later ⟨f, hr, rfl⟩
      subst here
      refine ⟨_, List.mem_cons_self, rfl, ?_⟩
      rw [all.touches.under, written]
      intro again
      obtain ⟨k, hk, equal⟩ := List.mem_map.mp again
      exact later ⟨k, hk, tempName_injective equal⟩

/-- What is discarded may have been staged before. -/
private theorem Discarded.preceded {staged : List String} {next : String}
    (last : Discarded dir d staged next w₁ out) (touch : Touches dir d [tempName name] w w₁)
    (known : name ∈ staged) : Discarded dir d staged next w out := by
  refine ⟨last.gone, fun n hn => ?_, last.reason.imp_right touch.under_directory.mp⟩
  rw [last.left n hn, touch.under]
  intro again
  have equal := tempName_injective (List.mem_singleton.mp again)
  exact hn (equal ▸ known)

/-- A content cannot be staged, so what was staged is removed. -/
private theorem discard_spec {done : List String} (touch : Touches dir d [tempName name] w w₁)
    (same : w₁.files = w.files) (usable : ∀ n ∈ done, dir.IsUsable (tempName n))
    (held : ∀ n ∈ done, w.files.under d (tempName n) ≠ some .directory)
    (reason : ¬ dir.IsUsable (tempName name) ∨
      w.files.under d (tempName name) = some .directory ∨ Spent w w₁)
    (run : ((removeNames dir (done.map tempName)).run w₁).2 = out) :
    Touches dir d ((done ++ [name]).map tempName) w out ∧
      (w.isArmed = false → Discarded dir d done name w out) := by
  obtain ⟨removed, gone⟩ := removeNames_spec touch.leads (by simpa using usable) run
  refine ⟨(touch.trans removed).mono fun x hx => ?_, fun idle => ⟨?_, ?_, ?_⟩⟩
  · rw [List.map_append, List.mem_append]
    exact (List.mem_append.mp hx).symm
  · intro n hn
    refine gone (touch.idle idle) _ (List.mem_map_of_mem hn) ?_
    exact fun now => held n hn (touch.under_directory.mp now)
  · intro n hn
    rw [removed.under, FileTree.under, same, FileTree.under]
    intro again
    obtain ⟨k, hk, equal⟩ := List.mem_map.mp again
    exact hn (by simpa [tempName_injective equal] using hk)
  · rcases reason with unusable | hd | spent
    · exact .inl unusable
    · exact .inr hd
    · exact absurd idle spent.armed

/-- All contents are staged, or those that were staged are removed again. -/
theorem stage_spec {done : List String} (h : w.files.LeadsTo dir d)
    (named : ∀ f ∈ files, IsFileName f.1) (usable : ∀ n ∈ done, dir.IsUsable (tempName n))
    (held : ∀ n ∈ done, w.files.under d (tempName n) ≠ some .directory)
    {r : Except Error (List Staged)}
    (run : (stage dir (stagedIn dir done) files : StateM Surroundings _).run w = (r, out)) :
    (r = .ok (stagedIn dir (done ++ files.map Prod.fst)) ∧ AllStaged dir d files w out) ∨
      ((∃ e, r = .error e) ∧
        Touches dir d ((done ++ files.map Prod.fst).map tempName) w out ∧
        ∃ before next after, files.map Prod.fst = before ++ next :: after ∧
          (w.isArmed = false → Discarded dir d (done ++ before) next w out)) := by
  induction files generalizing done w with
  | nil =>
    cases run
    refine .inl ⟨by simp, .refl h _, ?_, ?_, rfl⟩ <;> simp
  | cons f rest ih =>
    obtain ⟨name, content⟩ := f
    obtain ⟨fileName, notStill, notUp⟩ := isFileName_tempName (named _ List.mem_cons_self)
    rw [stage, staged_of, run_bind] at run
    simp only at run
    obtain ⟨⟨q, w₁⟩, h₁⟩ : ∃ o, (Files.write (dir.join (tempName name)) content.toUTF8 :
      StateM Surroundings _).run w = o := ⟨_, rfl⟩
    rw [h₁] at run
    obtain ⟨touch, outcome⟩ := write_spec h fileName notStill notUp content.toUTF8 h₁
    rcases outcome with ⟨rfl, u, written, armed⟩ | ⟨⟨fault, rfl⟩, same, reason⟩
    · have more : stagedIn dir done ++ [Staged.of dir name] = stagedIn dir (done ++ [name]) := by
        simp [stagedIn]
      rw [← staged_of] at run
      simp only [more] at run
      have usable₁ : ∀ n ∈ done ++ [name], dir.IsUsable (tempName n) := by
        intro n hn
        rcases List.mem_append.mp hn with hd | hs
        · exact usable n hd
        · exact List.mem_singleton.mp hs ▸ u
      have held₁ : ∀ n ∈ done ++ [name], w₁.files.under d (tempName n) ≠ some .directory := by
        intro n hn
        rcases List.mem_append.mp hn with hd | hs
        · exact fun now => held n hd (touch.under_directory.mp now)
        · rw [List.mem_singleton.mp hs, written]
          simp
      rcases ih touch.leads (fun g hg => named g (List.mem_cons_of_mem _ hg)) usable₁ held₁ run with
        ⟨rfl, all⟩ | ⟨failed, touches, before, next, after, split, discarded⟩
      · exact .inl ⟨by simp [stagedIn], .cons touch u written armed all⟩
      · refine .inr ⟨failed, ?_, name :: before, next, after, by simp [split], fun idle => ?_⟩
        · exact (touch.trans touches).mono (by simp)
        · have last := discarded (touch.idle idle)
          rw [List.append_cons]
          exact last.preceded touch (by simp)
    · rw [run_bind] at run
      simp only [discard_eq] at run
      obtain ⟨w₂, h₂⟩ : ∃ o, ((removeNames dir (done.map tempName)).run w₁).2 = o := ⟨_, rfl⟩
      rw [h₂] at run
      cases run
      obtain ⟨touches, discarded⟩ := discard_spec touch same usable held reason h₂
      refine .inr ⟨⟨_, rfl⟩, touches.mono fun x hx => ?_, [], name, rest.map Prod.fst, rfl, ?_⟩
      · rw [List.map_cons, List.append_cons, List.map_append]
        exact List.mem_append_left _ hx
      · rwa [List.append_nil]

/-- Looking for a blocked target finds the first directory and changes nothing. -/
theorem firstBlocked?_run (w : Surroundings) (dir : Path) (names : List String) :
    (firstBlocked? (stagedIn dir names) : StateM Surroundings _).run w =
      ((names.find? fun n => w.files.isDirectory (dir.join n)).map (Staged.of dir), w) := by
  induction names with
  | nil => rfl
  | cons name rest ih =>
    rw [stagedIn, List.map_cons, firstBlocked?, run_bind]
    change ((if w.files.isDirectory (dir.join name) then _ else _ : StateM Surroundings _)).run w = _
    rw [List.find?_cons]
    cases w.files.isDirectory (dir.join name) with
    | true => rfl
    | false => exact ih

/-- A name whose content could be staged is ready unless its target is a directory. -/
theorem ready_of_free {name : String} (h : w.files.LeadsTo dir d)
    (u : dir.IsUsable (tempName name)) (named : IsFileName name)
    (free : w.files.isDirectory (dir.join name) = false) :
    Ready dir name ∧ w.files.under d name ≠ some .directory := by
  have faultless := faultless_name u named
  have target : dir.IsUsable name := by
    refine isUsable_name u named ?_ ?_
    · intro still
      rw [FileTree.isDirectory_join_dots h (.inl still) faultless] at free
      cases free
    · intro up
      rw [FileTree.isDirectory_join_dots h (.inr up) faultless] at free
      cases free
  refine ⟨⟨target, u, isUsable_backupName u named⟩, fun hd => ?_⟩
  rw [(FileTree.isDirectory_join h target).mpr hd] at free
  cases free

end Batch

end ApiReference
