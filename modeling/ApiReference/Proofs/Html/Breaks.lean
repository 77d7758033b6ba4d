import ApiReference.Html.Document
import ApiReference.Html.Position
import ApiReference.Proofs.Html.Rules

/-!
Line breaks in documents. However markup is written, no line break of the document it describes
holds anything (`breaksEmpty_of_position`).
-/

namespace ApiReference.Html

open Std.Do

set_option mvcgen.warning false

/-- Whether no line break, among nodes and all below them, holds anything. -/
def BreaksEmpty : List Node → Prop
  | [] => True
  | .mk l cs :: rest => (¬l.MayHold → cs = []) ∧ BreaksEmpty cs ∧ BreaksEmpty rest

theorem breaksEmpty_of_forall {nodes : List Node} (h : ∀ n ∈ nodes, BreaksEmpty [n]) :
    BreaksEmpty nodes := by
  induction nodes with
  | nil => simp [BreaksEmpty]
  | cons n rest ih =>
    obtain ⟨l, cs⟩ := n
    have first := h _ List.mem_cons_self
    simp only [BreaksEmpty] at first ⊢
    exact ⟨first.1, first.2.1, ih fun m hm => h m (List.mem_cons_of_mem _ hm)⟩

theorem BreaksEmpty.forall {nodes : List Node} (h : BreaksEmpty nodes) :
    ∀ n ∈ nodes, BreaksEmpty [n] := by
  induction nodes with
  | nil => exact nofun
  | cons n rest ih =>
    obtain ⟨l, cs⟩ := n
    simp only [BreaksEmpty] at h
    exact List.forall_mem_cons.mpr ⟨by simpa [BreaksEmpty] using ⟨h.1, h.2.1⟩, ih h.2.2⟩

theorem BreaksEmpty.children {n : Node} (h : BreaksEmpty [n]) : BreaksEmpty n.children := by
  obtain ⟨l, cs⟩ := n
  simp only [BreaksEmpty] at h
  exact h.2.1

theorem BreaksEmpty.get? {n m : Node} (h : BreaksEmpty [n]) {path : List Nat}
    (found : n.get? path = some m) : BreaksEmpty [m] := by
  induction path generalizing n with
  | nil => exact Option.some.inj found ▸ h
  | cons i path ih =>
    simp only [Node.get?] at found
    cases inside : n.children[i]? with
    | none => simp [inside] at found
    | some child =>
      simp only [inside] at found
      exact ih (h.children.forall child (List.mem_of_getElem? inside)) found

/-- In the tree of a sound draft no line break holds anything. -/
theorem breaksEmpty_subtree {d : Draft} {kept : Nat → Prop} (h : d.Sound kept) (fuel id : Nat) :
    BreaksEmpty [d.subtree fuel id] := by
  induction fuel generalizing id with
  | zero => simp [Draft.subtree, BreaksEmpty]
  | succ fuel ih =>
    simp only [Draft.subtree, BreaksEmpty, and_true]
    refine ⟨fun mayNot => ?_, breaksEmpty_of_forall fun n hn => ?_⟩
    · have none : d.children id = #[] := h.childless id fun holds => mayNot holds.2
      simp [none]
    · obtain ⟨child, -, rfl⟩ := List.mem_map.mp hn
      exact ih child

namespace Build

variable {kept : Nat → Prop}

attribute [local irreducible] rulesOf foreignRules

@[spec]
theorem keeps_readToken (token : Token) (fuel : Nat) : Keeps kept (readToken token fuel) := by
  induction fuel with
  | zero => mvcgen [readToken]
  | succ fuel ih => mvcgen [readToken, ih]

@[spec]
theorem keeps_readDoctypeToken (d : Doctype) : Keeps kept (readDoctypeToken d) := by
  mvcgen [readDoctypeToken]
  · exact Construction.Sound.old ‹_›
  · have h := ‹Construction.Sound kept _›
    exact { h with }

attribute [local irreducible] readToken readDoctypeToken

@[spec]
theorem keeps_accept (token : Token) : Keeps kept (accept token) := by
  mvcgen [accept]
  all_goals
    have h := ‹Construction.Sound kept _›
    exact { h with }

attribute [local irreducible] accept

theorem keeps_readMarkup (fuel : Nat) (cs : List Char) : Keeps kept (readMarkup fuel cs) := by
  induction fuel generalizing cs with
  | zero => mvcgen [readMarkup]
  | succ fuel ih =>
    cases cs with
    | nil => mvcgen [readMarkup]
    | cons c cs => mvcgen [readMarkup, ih]

theorem sound_readMarkup {c : Construction} (h : c.Sound kept) (fuel : Nat) (cs : List Char) :
    ((readMarkup fuel cs).run c).2.Sound kept := by
  generalize ran : (readMarkup fuel cs).run c = result
  exact StateM.of_wp_run_eq ran (fun result => result.2.Sound kept)
    fun _ => keeps_readMarkup fuel cs c h

end Build

/-- No line break below a node of a document holds anything. -/
theorem breaksEmpty_of_position {markup : String}
    (p : Position (Document.parse markup).root) : BreaksEmpty p.node.children := by
  have sound := Build.sound_readMarkup Construction.Sound.start
  exact ((breaksEmpty_subtree (sound _ _).draft _ _).get? p.found).children

end ApiReference.Html
