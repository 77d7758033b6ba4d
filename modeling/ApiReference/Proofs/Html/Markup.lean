import Mathlib.Data.List.Basic
import ApiReference.Html.Markup

/-!
The markup of an element against the markup of its children. Nodes written by themselves and nodes
written as content of an element come out alike (`markupOf_eq`), unless the element is one whose
text is written as it is: a child of such an element that is written by itself is escaped. So an
element is its start tag, the markup of its children and its end tag just if that text has nothing
to escape (`outerMarkup_eq_tags_iff`).
-/

namespace ApiReference.Html

/-- The texts that stand in an element itself, and in no element below it. -/
def ownTexts : List Node → List String
  | [] => []
  | .mk (.text t) _ :: rest => t :: ownTexts rest
  | .mk .document cs :: rest | .mk .fragment cs :: rest => ownTexts cs ++ ownTexts rest
  | .mk (.element _) _ :: rest | .mk (.comment _) _ :: rest | .mk (.doctype _) _ :: rest =>
    ownTexts rest

/-- Whether a text is in markup what it is. -/
def IsUnmarked (t : String) : Prop := ∀ c ∈ t.toList, c ∉ ['&', '<', '>', '\u00A0']

instance (t : String) : Decidable (IsUnmarked t) :=
  inferInstanceAs (Decidable (∀ c ∈ t.toList, c ∉ ['&', '<', '>', '\u00A0']))

/-! ## Text -/

theorem escapeTextChar_eq {c : Char} (h : c ∉ ['&', '<', '>', '\u00A0']) :
    escapeTextChar c = [c] := by
  simp only [List.mem_cons, List.not_mem_nil, or_false, not_or] at h
  simp [escapeTextChar, h]

theorem two_le_length_escapeTextChar {c : Char} (h : c ∈ ['&', '<', '>', '\u00A0']) :
    2 ≤ (escapeTextChar c).length := by
  simp only [List.mem_cons, List.not_mem_nil, or_false] at h
  rcases h with rfl | rfl | rfl | rfl <;> decide

theorem length_le_escaped (cs : List Char) : cs.length ≤ (cs.flatMap escapeTextChar).length := by
  induction cs with
  | nil => exact Nat.le_refl 0
  | cons c cs ih =>
    have first : 1 ≤ (escapeTextChar c).length := by
      by_cases h : c ∈ ['&', '<', '>', '\u00A0']
      · have := two_le_length_escapeTextChar h
        omega
      · exact Nat.le_of_eq (congrArg List.length (escapeTextChar_eq h)).symm
    rw [List.flatMap_cons, List.length_append, List.length_cons]
    omega

/-- Escaping a character makes a text longer, and nothing makes it shorter again. -/
theorem escaped_eq_iff (cs : List Char) :
    cs.flatMap escapeTextChar = cs ↔ ∀ c ∈ cs, c ∉ ['&', '<', '>', '\u00A0'] := by
  induction cs with
  | nil => simp
  | cons c cs ih =>
    rw [List.flatMap_cons, List.forall_mem_cons]
    by_cases h : c ∈ ['&', '<', '>', '\u00A0']
    · have longer := two_le_length_escapeTextChar h
      have rest := length_le_escaped cs
      have apart : escapeTextChar c ++ cs.flatMap escapeTextChar ≠ c :: cs := by
        intro same
        have lengths := congrArg List.length same
        rw [List.length_append, List.length_cons] at lengths
        omega
      exact iff_of_false apart fun all => all.1 h
    · rw [escapeTextChar_eq h, List.singleton_append, List.cons.injEq, ih]
      simp only [true_and, h, not_false_iff]

theorem escapeText_eq_iff (t : String) : escapeText t = t ↔ IsUnmarked t := by
  rw [IsUnmarked, ← escaped_eq_iff, ← String.toList_inj, escapeText, String.toList_ofList]

theorem length_le_escapeText (t : String) : t.length ≤ (escapeText t).length := by
  rw [escapeText, String.length_ofList, ← String.length_toList]
  exact length_le_escaped t.toList

/-! ## Content -/

theorem contentMarkup_element (raw : Bool) (e : Element) (cs rest : List Node) :
    contentMarkup raw (.mk (.element e) cs :: rest) =
      contentMarkup false [.mk (.element e) cs] ++ contentMarkup raw rest := by
  simp only [contentMarkup, String.append_empty]

/-- Nodes are written by themselves as they are written in an element whose text is escaped. -/
theorem markupOf_eq (nodes : List Node) : markupOf nodes = contentMarkup false nodes := by
  fun_induction markupOf nodes with
  | case1 => rw [contentMarkup]
  | case2 t _ rest ih => rw [contentMarkup, ih, if_neg Bool.false_ne_true]
  | case3 t _ rest ih => rw [contentMarkup, ih]
  | case4 name _ rest ih => rw [contentMarkup, ih]
  | case5 e cs rest ih => rw [contentMarkup_element false e cs rest, ih]
  | case6 cs rest inside ih => rw [contentMarkup, inside, ih]
  | case7 cs rest inside ih => rw [contentMarkup, inside, ih]

/-- Escaping makes no content shorter. -/
theorem length_contentMarkup_le (nodes : List Node) :
    (contentMarkup true nodes).length ≤ (contentMarkup false nodes).length := by
  induction nodes using ownTexts.induct with
  | case1 => simp only [contentMarkup, Nat.le_refl]
  | case2 t _ rest ih =>
    have first := length_le_escapeText t
    simp only [contentMarkup, String.length_append, ↓reduceIte, Bool.false_eq_true]
    omega
  | case3 cs rest inside ih | case4 cs rest inside ih =>
    simp only [contentMarkup, String.length_append]
    omega
  | case5 e cs rest ih =>
    rw [contentMarkup_element true e cs rest, contentMarkup_element false e cs rest,
      String.length_append, String.length_append]
    omega
  | case6 t _ rest ih | case7 name _ rest ih =>
    simp only [contentMarkup, String.length_append]
    omega

/-- Two parts written one after the other come out the same just if each of them does, where
neither can come out shorter. -/
private theorem append_eq_iff {a b a' b' : String} (ha : a.length ≤ a'.length)
    (hb : b.length ≤ b'.length) : a ++ b = a' ++ b' ↔ a = a' ∧ b = b' := by
  constructor
  · intro same
    have lengths := congrArg String.length same
    rw [String.length_append, String.length_append] at lengths
    have lists := congrArg String.toList same
    rw [String.toList_append, String.toList_append] at lists
    obtain ⟨first, second⟩ := List.append_inj lists (by simp only [String.length_toList]; omega)
    exact ⟨String.toList_inj.mp first, String.toList_inj.mp second⟩
  · rintro ⟨rfl, rfl⟩
    rfl

/-- Content comes out the same escaped or not just if its own texts have nothing to escape. -/
theorem contentMarkup_eq_iff (nodes : List Node) :
    contentMarkup true nodes = contentMarkup false nodes ↔
      ∀ t ∈ ownTexts nodes, IsUnmarked t := by
  induction nodes using ownTexts.induct with
  | case1 => simp [contentMarkup, ownTexts]
  | case2 t _ rest ih =>
    simp only [contentMarkup, ownTexts, List.forall_mem_cons, ↓reduceIte, Bool.false_eq_true]
    rw [append_eq_iff (length_le_escapeText t) (length_contentMarkup_le rest), ih,
      ← escapeText_eq_iff t, eq_comm]
  | case3 cs rest inside ih | case4 cs rest inside ih =>
    simp only [contentMarkup, ownTexts, List.forall_mem_append]
    rw [append_eq_iff (length_contentMarkup_le cs) (length_contentMarkup_le rest), inside, ih]
  | case5 e cs rest ih =>
    rw [contentMarkup_element true e cs rest, contentMarkup_element false e cs rest,
      String.append_right_inj, ownTexts, ih]
  | case6 t _ rest ih | case7 name _ rest ih =>
    simp only [contentMarkup, ownTexts, String.append_right_inj, ih]

/-! ## Elements -/

/-- An element that is not written as a start tag alone is its start tag, what it holds, and its
end tag. -/
theorem outerMarkup_element {e : Element} (h : e.isVoid = false) (cs : List Node) :
    (Node.mk (.element e) cs).outerMarkup =
      e.startTag ++ contentMarkup e.isRawText cs ++ e.endTag := by
  simp only [Node.outerMarkup, markupOf, contentMarkup, h, Bool.false_eq_true, ↓reduceIte,
    String.append_empty]

/-- An element is its start tag, the markup of its children and its end tag just if its own texts
are written as they are in either: its text is escaped, or there is nothing in it to escape. -/
theorem outerMarkup_eq_tags_iff {e : Element} (h : e.isVoid = false) (cs : List Node) :
    (Node.mk (.element e) cs).outerMarkup =
        e.startTag ++ (Node.mk (.element e) cs).innerMarkup ++ e.endTag ↔
      (e.isRawText = true → ∀ t ∈ ownTexts cs, IsUnmarked t) := by
  rw [outerMarkup_element h, String.append_left_inj, String.append_right_inj, Node.innerMarkup,
    markupOf_eq, Node.children]
  cases e.isRawText with
  | false => simp
  | true => rw [contentMarkup_eq_iff]; simp

theorem outerMarkup_eq_tags_callingScript :
    (⟨.html, "script", []⟩ : Element).isVoid = false ∧
      (∀ t ∈ ownTexts [.mk (.text "f(1)") []], IsUnmarked t) ∧
      (Node.mk (.element ⟨.html, "script", []⟩) [.mk (.text "f(1)") []]).outerMarkup =
        "<script>" ++ (Node.mk (.element ⟨.html, "script", []⟩)
          [.mk (.text "f(1)") []]).innerMarkup ++ "</script>" :=
  have unmarked : ∀ t ∈ ownTexts [.mk (.text "f(1)") []], IsUnmarked t := by
    simp [ownTexts, IsUnmarked]
  ⟨by decide, unmarked, (outerMarkup_eq_tags_iff (by decide) _).mpr fun _ => unmarked⟩

/-- The comparison in a script is escaped where its text is written by itself. -/
theorem outerMarkup_comparingScript :
    (⟨.html, "script", []⟩ : Element).isVoid = false ∧
      (Node.mk (.element ⟨.html, "script", []⟩) [.mk (.text "a<b") []]).outerMarkup ≠
        "<script>" ++ (Node.mk (.element ⟨.html, "script", []⟩)
          [.mk (.text "a<b") []]).innerMarkup ++ "</script>" := by
  refine ⟨by decide, ?_⟩
  have outer : (Node.mk (.element ⟨.html, "script", []⟩) [.mk (.text "a<b") []]).outerMarkup =
      "<script>a<b</script>" := by
    cbv
  have inner : (Node.mk (.element ⟨.html, "script", []⟩) [.mk (.text "a<b") []]).innerMarkup =
      "a&lt;b" := by
    cbv
  rw [outer, inner]
  decide

end ApiReference.Html
