import Mathlib
import ApiReference.Text.Split

/-!
Texts cut at a separator. A text that holds the separator is cut into two parts at least, and one
that was put together with the separator is cut into the parts it was made of, if none of these can
be taken for the start of a separator (`splitOn_intercalate`).
-/

namespace ApiReference.Text

theorem occursIn_iff {part cs : List Char} : occursIn part cs = true ↔ part <:+: cs := by
  induction cs with
  | nil => rw [occursIn, List.isEmpty_iff, List.infix_nil]
  | cons c cs ih =>
    rw [occursIn, Bool.or_eq_true, List.isPrefixOf_iff_prefix, ih, List.infix_cons_iff]

theorem splitOnFrom_ne_nil (sep : List Char) (skip : Nat) (cs : List Char) :
    splitOnFrom sep skip cs ≠ [] := by
  induction cs generalizing skip with
  | nil => simp [splitOnFrom]
  | cons c cs ih =>
    cases skip with
    | succ skip =>
      rw [splitOnFrom]
      exact ih skip
    | zero =>
      rw [splitOnFrom]
      split
      · simp
      · split <;> simp

/-- A text that holds the separator is cut into two parts at least. -/
theorem two_le_length_splitOn {sep : List Char} (nonempty : sep ≠ []) :
    ∀ {cs : List Char}, occursIn sep cs = true → 2 ≤ (splitOn sep cs).length := by
  intro cs
  unfold splitOn
  induction cs with
  | nil =>
    intro occurs
    rw [occursIn, List.isEmpty_iff] at occurs
    exact absurd occurs nonempty
  | cons c cs ih =>
    intro occurs
    rw [splitOnFrom]
    split
    · have later := List.length_pos_iff.mpr (splitOnFrom_ne_nil sep (sep.length - 1) cs)
      rw [List.length_cons]
      omega
    · rename_i starts
      rw [occursIn, Bool.or_eq_true] at occurs
      have later := ih (occurs.resolve_left starts)
      split
      · rename_i none
        rw [none] at later
        simp at later
      · rename_i piece rest pieces
        rw [pieces] at later
        exact later

/-! ## Parts that are no separator -/

/-- Whether a separator starts at no place in a text, whatever follows that text. -/
def Avoids (sep : List Char) : List Char → Prop
  | [] => True
  | c :: cs => (∀ rest, ¬sep <+: c :: (cs ++ rest)) ∧ Avoids sep cs

theorem avoids_of_forall {c : Char} {sep cs : List Char} (h : ∀ d ∈ cs, c ≠ d) :
    Avoids (c :: sep) cs := by
  induction cs with
  | nil => trivial
  | cons d cs ih =>
    refine ⟨fun rest starts => ?_, ih fun e he => h e (List.mem_cons_of_mem d he)⟩
    exact h d List.mem_cons_self (List.cons_prefix_cons.mp starts).1

/-- A separator that `f` keeps as it is starts in no text if it starts nowhere in the image of that
text. -/
theorem Avoids.of_map {f : Char → Char} {sep cs : List Char} (small : sep.map f = sep)
    (h : Avoids sep (cs.map f)) : Avoids sep cs := by
  induction cs with
  | nil => trivial
  | cons c cs ih =>
    refine ⟨fun rest starts => h.1 (rest.map f) ?_, ih h.2⟩
    have image := starts.map f
    rw [small, List.map_cons, List.map_append] at image
    exact image

theorem Avoids.not_infix {sep cs : List Char} (nonempty : sep ≠ []) (h : Avoids sep cs) :
    ¬sep <:+: cs := by
  induction cs with
  | nil => rwa [List.infix_nil]
  | cons c cs ih =>
    rw [List.infix_cons_iff, not_or]
    exact ⟨by simpa using h.1 [], ih h.2⟩

/-- The rest of a separator that was found is passed over. -/
private theorem splitOnFrom_append (sep ds rest : List Char) :
    splitOnFrom sep ds.length (ds ++ rest) = splitOnFrom sep 0 rest := by
  induction ds with
  | nil => rfl
  | cons d ds ih => rw [List.length_cons, List.cons_append, splitOnFrom, ih]

private theorem splitOn_cons {sep cs piece : List Char} {c : Char} {rest : List (List Char)}
    (other : ¬sep <+: c :: cs) (h : splitOn sep cs = piece :: rest) :
    splitOn sep (c :: cs) = (c :: piece) :: rest := by
  rw [splitOn] at h ⊢
  rw [splitOnFrom, if_neg (by rwa [List.isPrefixOf_iff_prefix]), h]

/-- A text before a separator is the first part. -/
theorem Avoids.splitOn_append {sep cs : List Char} (nonempty : sep ≠ []) (h : Avoids sep cs)
    (rest : List Char) : splitOn sep (cs ++ (sep ++ rest)) = cs :: splitOn sep rest := by
  induction cs with
  | nil =>
    obtain ⟨s, later, rfl⟩ := List.exists_cons_of_ne_nil nonempty
    have starts : (s :: later).isPrefixOf (s :: (later ++ rest)) = true := by
      rw [List.isPrefixOf_iff_prefix]
      exact List.prefix_append (s :: later) rest
    rw [List.nil_append, List.cons_append, splitOn, splitOnFrom, if_pos starts, List.length_cons,
      Nat.add_sub_cancel, splitOnFrom_append, splitOn]
  | cons c cs ih => exact splitOn_cons (h.1 _) (ih h.2)

/-- A text without a separator is one part. -/
theorem Avoids.splitOn_eq {sep cs : List Char} (h : Avoids sep cs) : splitOn sep cs = [cs] := by
  induction cs with
  | nil => rfl
  | cons c cs ih => exact splitOn_cons (by simpa using h.1 []) (ih h.2)

/-- Parts put together with a separator are cut apart again. -/
theorem splitOn_intercalate {sep : List Char} (nonempty : sep ≠ []) {parts : List (List Char)}
    (some : parts ≠ []) (h : ∀ part ∈ parts, Avoids sep part) :
    splitOn sep (sep.intercalate parts) = parts := by
  induction parts with
  | nil => exact absurd rfl some
  | cons part parts ih =>
    have first := h part List.mem_cons_self
    cases parts with
    | nil => rw [List.intercalate_singleton, first.splitOn_eq]
    | cons next rest =>
      rw [List.intercalate_cons_cons, List.append_assoc, first.splitOn_append nonempty,
        ih (List.cons_ne_nil next rest) fun p hp => h p (List.mem_cons_of_mem part hp)]

/-- The separator is met in what was put together of two parts or more, and not in one part. -/
theorem infix_intercalate_iff {sep part : List Char} (nonempty : sep ≠ [])
    (parts : List (List Char)) (h : Avoids sep part) :
    sep <:+: sep.intercalate (part :: parts) ↔ parts ≠ [] := by
  cases parts with
  | nil =>
    rw [List.intercalate_singleton]
    exact iff_of_false (h.not_infix nonempty) (by simp)
  | cons next rest =>
    rw [List.intercalate_cons_cons]
    exact iff_of_true ⟨part, _, rfl⟩ (List.cons_ne_nil next rest)

end ApiReference.Text
