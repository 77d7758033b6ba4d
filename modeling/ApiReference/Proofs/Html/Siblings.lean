import ApiReference.Proofs.Html.Search
import Mathlib.Data.List.TakeWhile

/-!
The siblings after a node, which are those of its parent's children with a greater index
(`mem_nextSiblings`). What stands after one of them stands after the node as well, and of two nodes
that have a common sibling after them one comes after the other (`comparable_of_nextSiblings`).
A node is between two siblings if it comes after the one and before the other (`between_iff`). Where
the second does not come after the first it bounds nothing, and every sibling after the first is
between them (`between_standsAfter`).
-/

namespace ApiReference.Html.Position

variable {root : Node}

/-- The child of an index is the node one step below with that index. -/
theorem getElem?_children {p q : Position root} {k : Nat} :
    p.children[k]? = some q ↔ q.path = p.path ++ [k] := by
  have paths (j : Nat) : (p.children[j]?).map path =
      if j < p.node.children.length then some (p.path ++ [j]) else none := by
    rw [← List.getElem?_map, map_path_children, List.getElem?_map]
    split
    · rename_i inside
      rw [List.getElem?_range inside, Option.map_some]
    · rename_i outside
      rw [List.getElem?_eq_none (by simpa using outside), Option.map_none]
  constructor
  · intro h
    have here := paths k
    rw [h, Option.map_some] at here
    split at here
    · exact Option.some.inj here
    · cases here
  · intro h
    have inside : k < p.node.children.length := by
      have found := q.found
      rw [h, Node.get?_append, p.found, Option.bind_some, Node.get?_singleton] at found
      exact (List.getElem?_eq_some_iff.mp found).1
    have here := paths k
    rw [if_pos inside] at here
    obtain ⟨r, child, same⟩ := Option.map_eq_some_iff.mp here
    rw [child, ext_path (h.trans same.symm)]

theorem index_of_path {p : Position root} {above : List Nat} {i : Nat}
    (h : p.path = above ++ [i]) : p.index = i := by
  rw [index, h, List.getLast?_concat, Option.getD_some]

/-- A sibling of an index has the same siblings and that index. -/
theorem of_getElem?_siblings {p q : Position root} {k : Nat} (h : p.siblings[k]? = some q) :
    q.siblings = p.siblings ∧ q.index = k := by
  unfold siblings at h ⊢
  cases parent : p.parent? with
  | none =>
    rw [parent] at h
    cases h
  | some above =>
    rw [parent] at h
    have among := List.mem_of_getElem? h
    rw [parent?_of_mem_children among]
    exact ⟨rfl, index_of_path (getElem?_children.mp h)⟩

/-- The siblings after one that stands after a node are the rest of those after the node. -/
theorem nextSiblings_of_append {p q : Position root} {before after : List (Position root)}
    (h : p.nextSiblings = before ++ q :: after) : q.nextSiblings = after := by
  have here : p.siblings[p.index + 1 + before.length]? = some q := by
    rw [← List.getElem?_drop, ← nextSiblings, h]
    simp
  obtain ⟨same, index⟩ := of_getElem?_siblings here
  rw [nextSiblings, same, index, Nat.add_assoc, ← List.drop_drop, ← nextSiblings, h,
    ← List.drop_drop, List.drop_left]
  rfl

theorem path_of_at? {path : List Nat} {p : Position root} (h : at? path = some p) :
    p.path = path := by
  unfold at? at h
  split at h
  · cases h
    rfl
  · cases h

/-- The parent of a node is one step above. -/
theorem parent?_eq_some {p q : Position root} :
    p.parent? = some q ↔ ∃ i, p.path = q.path ++ [i] := by
  constructor
  · intro h
    unfold parent? at h
    split at h
    · cases h
    · rename_i inner
      have nonempty : p.path ≠ [] := by simpa using inner
      exact ⟨p.path.getLast nonempty, by rw [path_of_at? h, List.dropLast_append_getLast]⟩
  · rintro ⟨i, h⟩
    exact parent?_of_mem_children (List.mem_of_getElem? (getElem?_children.mpr h))

theorem exists_parent {p : Position root} {above : List Nat} {i : Nat}
    (h : p.path = above ++ [i]) : ∃ q, p.parent? = some q ∧ q.path = above := by
  have found := p.found
  rw [h, Node.get?_append] at found
  obtain ⟨node, leads, _⟩ := Option.bind_eq_some_iff.mp found
  exact ⟨⟨above, node, leads⟩, parent?_eq_some.mpr ⟨i, h⟩, rfl⟩

/-- The nodes after a node among its siblings are those below the same node with a greater
index. -/
theorem mem_nextSiblings {p q : Position root} :
    q ∈ p.nextSiblings ↔
      ∃ above i j, i < j ∧ p.path = above ++ [i] ∧ q.path = above ++ [j] := by
  constructor
  · intro h
    obtain ⟨k, here⟩ := List.mem_iff_getElem?.mp h
    rw [nextSiblings, List.getElem?_drop, siblings] at here
    cases parent : p.parent? with
    | none =>
      rw [parent] at here
      cases here
    | some above =>
      rw [parent] at here
      obtain ⟨i, path⟩ := parent?_eq_some.mp parent
      rw [index_of_path path] at here
      exact ⟨above.path, i, _, by omega, path, getElem?_children.mp here⟩
  · rintro ⟨above, i, j, less, hp, hq⟩
    obtain ⟨parent, isParent, rfl⟩ := exists_parent hp
    have here : p.siblings[j]? = some q := by
      rw [siblings, isParent]
      exact getElem?_children.mpr hq
    rw [nextSiblings, index_of_path hp]
    refine List.mem_of_getElem? (i := j - (i + 1)) ?_
    rw [List.getElem?_drop, ← here]
    congr 1
    omega

theorem not_mem_nextSiblings_self (p : Position root) : p ∉ p.nextSiblings := by
  intro h
  obtain ⟨above, i, j, less, hp, hq⟩ := mem_nextSiblings.mp h
  have same := (List.append_inj' (hp.symm.trans hq) rfl).2
  simp at same
  omega

theorem mem_nextSiblings_trans {p q r : Position root} (h : q ∈ p.nextSiblings)
    (k : r ∈ q.nextSiblings) : r ∈ p.nextSiblings := by
  obtain ⟨above, i, j, less, hp, hq⟩ := mem_nextSiblings.mp h
  obtain ⟨above', j', m, later, hq', hr⟩ := mem_nextSiblings.mp k
  obtain ⟨rfl, same⟩ := List.append_inj' (hq.symm.trans hq') rfl
  obtain rfl : j = j' := by simpa using same
  exact mem_nextSiblings.mpr ⟨above, i, m, less.trans later, hp, hr⟩

/-- Of two nodes with a common sibling after them one comes after the other, or they are one. -/
theorem comparable_of_nextSiblings {p q r : Position root} (h : r ∈ p.nextSiblings)
    (k : r ∈ q.nextSiblings) : p = q ∨ q ∈ p.nextSiblings ∨ p ∈ q.nextSiblings := by
  obtain ⟨above, i, m, _, hp, hr⟩ := mem_nextSiblings.mp h
  obtain ⟨above', j, m', _, hq, hr'⟩ := mem_nextSiblings.mp k
  obtain ⟨rfl, _⟩ := List.append_inj' (hr.symm.trans hr') rfl
  rcases Nat.lt_trichotomy i j with less | rfl | less
  · exact .inr (.inl (mem_nextSiblings.mpr ⟨above, i, j, less, hp, hq⟩))
  · exact .inl (ext_path (hp.trans hq.symm))
  · exact .inr (.inr (mem_nextSiblings.mpr ⟨above, j, i, less, hq, hp⟩))

/-! ## Between two siblings -/

/-- A node is between two others if it comes after the first and, where the second comes after the
first as well, before that. -/
theorem between_iff {p s : Position root} {stop : Option (Position root)} :
    p.between (some s) stop = true ↔
      p ∈ s.nextSiblings ∧ ∀ t, stop = some t → t ∈ s.nextSiblings → t ∈ p.nextSiblings := by
  have cut := List.takeWhile_append_dropWhile
    (p := fun q => some q != stop) (l := s.nextSiblings)
  have searched : p.between (some s) stop = true ↔
      p ∈ s.nextSiblings.takeWhile fun q => some q != stop := by
    simp [between]
  rw [searched]
  constructor
  · intro inside
    refine ⟨(List.takeWhile_sublist _).mem inside, fun t last among => ?_⟩
    obtain ⟨before, after, split⟩ := List.append_of_mem inside
    rw [split, List.append_assoc, List.cons_append] at cut
    rw [nextSiblings_of_append cut.symm]
    have passed : t ∉ before ++ p :: after := by
      rw [← split]
      intro early
      have differs := List.mem_takeWhile_imp early
      simp [last] at differs
    rw [← cut] at among
    simp only [List.mem_append, List.mem_cons] at among passed ⊢
    tauto
  · rintro ⟨among, before⟩
    by_contra outside
    rw [← cut, List.mem_append] at among
    have later := among.resolve_left outside
    cases rest : s.nextSiblings.dropWhile fun q => some q != stop with
    | nil =>
      rw [rest] at later
      cases later
    | cons t after =>
      have last : stop = some t := by
        have first := List.head?_dropWhile_not (fun q => some q != stop) s.nextSiblings
        rw [rest] at first
        have reached : some t = stop := by simpa using first
        exact reached.symm
      rw [rest] at cut later
      have next := before t last (by rw [← cut]; simp)
      rw [← nextSiblings_of_append cut.symm] at later
      rcases List.mem_cons.mp later with rfl | later
      · exact not_mem_nextSiblings_self p next
      · exact not_mem_nextSiblings_self p (mem_nextSiblings_trans next later)

/-- Whether a node is a sibling of another and comes after it. -/
def StandsAfter (p q : Position root) : Prop :=
  ∃ parent, q.parent? = some parent ∧ p.parent? = some parent ∧ q.index < p.index

theorem mem_nextSiblings_iff {p q : Position root} : q ∈ p.nextSiblings ↔ q.StandsAfter p := by
  rw [mem_nextSiblings]
  constructor
  · rintro ⟨above, i, j, less, hp, hq⟩
    obtain ⟨parent, isParent, rfl⟩ := exists_parent hp
    refine ⟨parent, isParent, parent?_eq_some.mpr ⟨j, hq⟩, ?_⟩
    rw [index_of_path hp, index_of_path hq]
    exact less
  · rintro ⟨parent, ofP, ofQ, less⟩
    obtain ⟨i, hp⟩ := parent?_eq_some.mp ofP
    obtain ⟨j, hq⟩ := parent?_eq_some.mp ofQ
    rw [index_of_path hp, index_of_path hq] at less
    exact ⟨parent.path, i, j, less, hp, hq⟩

/-- Nothing is between without a start, and without an end all siblings after the start are. An end
cuts off what does not come before it only if it comes after the start itself. So being between is
being after the start and before the end just for an end that comes after the start, or for a start
that no sibling comes after. -/
theorem between_standsAfter (p s t : Position root) :
    (∀ stop, p.between none stop = false) ∧
    (p.between (some s) none = true ↔ p.StandsAfter s) ∧
    (p.between (some s) (some t) = true ↔
      p.StandsAfter s ∧ (t.StandsAfter s → t.StandsAfter p)) ∧
    ((∀ q : Position root,
        q.between (some s) (some t) = true ↔ q.StandsAfter s ∧ t.StandsAfter q) ↔
      t.StandsAfter s ∨ ∀ q : Position root, ¬q.StandsAfter s) := by
  have bounded (q : Position root) : q.between (some s) (some t) = true ↔
      q.StandsAfter s ∧ (t.StandsAfter s → t.StandsAfter q) := by
    simp [between_iff, mem_nextSiblings_iff]
  refine ⟨fun stop => rfl, by simp [between_iff, mem_nextSiblings_iff], bounded p, ?_⟩
  constructor
  · intro holds
    by_contra outside
    push Not at outside
    obtain ⟨early, q, after⟩ := outside
    have before := ((holds q).mp ((bounded q).mpr ⟨after, fun late => absurd late early⟩)).2
    rw [← mem_nextSiblings_iff] at after before early
    exact early (mem_nextSiblings_trans after before)
  · rintro (late | none) q
    · rw [bounded]
      exact and_congr_right fun _ => ⟨fun before => before late, fun before _ => before⟩
    · rw [bounded]
      exact iff_of_false (fun h => none q h.1) (fun h => none q h.1)

/-- A body with three paragraphs. -/
def threeParagraphs : Node :=
  let paragraph := Node.mk (.element ⟨.html, "p", []⟩) []
  .mk (.element ⟨.html, "body", []⟩) [paragraph, paragraph, paragraph]

private def firstParagraph : Position threeParagraphs := ⟨[0], _, rfl⟩

private def secondParagraph : Position threeParagraphs := ⟨[1], _, rfl⟩

private def lastParagraph : Position threeParagraphs := ⟨[2], _, rfl⟩

/-- The last paragraph is taken to be between the second and the first, though the first does not
come after it. -/
theorem between_past_stop :
    lastParagraph.between (some secondParagraph) (some firstParagraph) = true ∧
      ¬(lastParagraph.StandsAfter secondParagraph ∧ firstParagraph.StandsAfter lastParagraph) := by
  refine ⟨rfl, ?_⟩
  rintro ⟨_, _, _, _, less⟩
  exact absurd less (by decide)

end ApiReference.Html.Position
