import ApiReference.Html.Select
import Mathlib.Data.List.Shortlex

/-!
What a search below a node finds. It reaches every document and element below the node
(`mem_searchOrder`), each of them once and the higher ones first (`sorted_searchOrder`), which is
document order just if nothing stands deeper than what comes after it (`pairwise_precedes_iff`); and
the parents of what it finds stand in the same order, each as often as it has a child that was found
(`parents_matching`).
-/

namespace ApiReference.Html

mutual

/-- The number of nodes on the longest way down from a node. -/
def Node.height : Node → Nat
  | .mk _ cs => heightOf cs + 1

/-- The greatest height of some nodes. -/
def heightOf : List Node → Nat
  | [] => 0
  | n :: rest => max n.height (heightOf rest)

end

theorem Node.height_le_heightOf {n : Node} {ns : List Node} (h : n ∈ ns) :
    n.height ≤ heightOf ns := by
  induction ns with
  | nil => cases h
  | cons m rest ih =>
    rw [heightOf]
    rcases List.mem_cons.mp h with rfl | later
    · exact Nat.le_max_left _ _
    · exact (ih later).trans (Nat.le_max_right _ _)

theorem Node.height_eq (n : Node) : n.height = heightOf n.children + 1 := by
  obtain ⟨label, cs⟩ := n
  rw [Node.height, Node.children]

namespace Position

variable {root : Node}

theorem at?_path (p : Position root) : at? p.path = some p := by
  unfold at?
  split
  · rename_i node found
    exact congrArg some (ext_path rfl)
  · rename_i none
    exact absurd (p.found.symm.trans none) (by simp)

/-! ## Children -/

private theorem map_path_childrenFrom (p : Position root) (i : Nat) (rest : List Node)
    (h : p.node.children.drop i = rest) :
    (p.childrenFrom i rest h).map path =
      (List.range' i rest.length).map fun k => p.path ++ [k] := by
  induction rest generalizing i with
  | nil => rfl
  | cons n later ih =>
    rw [childrenFrom, List.map_cons, ih, List.length_cons, List.range'_succ, List.map_cons]

private theorem map_node_childrenFrom (p : Position root) (i : Nat) (rest : List Node)
    (h : p.node.children.drop i = rest) : (p.childrenFrom i rest h).map node = rest := by
  induction rest generalizing i with
  | nil => rfl
  | cons n later ih => rw [childrenFrom, List.map_cons, ih]

theorem map_path_children (p : Position root) :
    p.children.map path =
      (List.range p.node.children.length).map fun k => p.path ++ [k] := by
  rw [children, map_path_childrenFrom, List.range_eq_range']

theorem map_node_children (p : Position root) : p.children.map node = p.node.children :=
  p.map_node_childrenFrom 0 _ _

/-- A child stands one step below. -/
theorem exists_path_of_mem_children {p q : Position root} (h : q ∈ p.children) :
    ∃ k, q.path = p.path ++ [k] := by
  have listed := List.mem_map_of_mem (f := path) h
  rw [map_path_children] at listed
  obtain ⟨k, _, e⟩ := List.mem_map.mp listed
  exact ⟨k, e.symm⟩

/-- The parent of a child is the node itself. -/
theorem parent?_of_mem_children {p q : Position root} (h : q ∈ p.children) :
    q.parent? = some p := by
  obtain ⟨k, e⟩ := exists_path_of_mem_children h
  rw [parent?, e, List.dropLast_concat, at?_path, if_neg]
  simp

theorem height_of_mem_children {p q : Position root} (h : q ∈ p.children) :
    q.node.height < p.node.height := by
  have listed := List.mem_map_of_mem (f := node) h
  rw [map_node_children] at listed
  rw [p.node.height_eq]
  exact Nat.lt_succ_of_le (Node.height_le_heightOf listed)

/-! ## What is below a node -/

/-- The documents and elements below a node, apart from those in templates. -/
inductive Below (p : Position root) : Position root → Prop where
  | child {q : Position root} : q ∈ p.children → q.isSearched = true → Below p q
  | deeper {q r : Position root} : Below p q → r ∈ q.children → r.isSearched = true → Below p r

/-- What is below a node is a child of it or of something below it. -/
theorem Below.parent {p q : Position root} (h : p.Below q) :
    ∃ r, (r = p ∨ p.Below r) ∧ q ∈ r.children := by
  cases h with
  | child among _ => exact ⟨p, .inl rfl, among⟩
  | deeper below among _ => exact ⟨_, .inr below, among⟩

theorem Below.length_lt {p q : Position root} (h : p.Below q) : p.path.length < q.path.length := by
  induction h with
  | child among _ =>
    obtain ⟨k, e⟩ := exists_path_of_mem_children among
    rw [e, List.length_append, List.length_singleton]
    exact Nat.lt_succ_self _
  | deeper _ among _ ih =>
    obtain ⟨k, e⟩ := exists_path_of_mem_children among
    rw [e, List.length_append, List.length_singleton]
    exact Nat.lt_succ_of_lt ih

/-- Only elements satisfy a selector. -/
theorem isSearched_of_matchesNode {s : Selector} {q : Position root}
    (h : s.matchesNode q.node = true) : q.isSearched = true := by
  unfold Selector.matchesNode at h
  unfold Position.isSearched
  split at h
  · rename_i e label
    rw [label]
  · cases h

/-- What is not searched is no match. -/
theorem filter_searched (s : Selector) (level : List (Position root)) :
    ((level.filter isSearched).filter fun q => s.matchesNode q.node) =
      level.filter fun q => s.matchesNode q.node := by
  rw [List.filter_filter]
  refine List.filter_congr fun q _ => ?_
  rw [Bool.and_eq_left_iff_imp]
  exact isSearched_of_matchesNode

/-! ## Level by level -/

/-- The searched nodes of a level and of all levels below it, down to a depth. -/
def levels : Nat → List (Position root) → List (Position root)
  | 0, _ => []
  | depth + 1, level =>
    let here := level.filter isSearched
    if here.isEmpty then [] else here ++ levels depth (here.flatMap children)

/-- The searched nodes below a node, level by level and in document order within a level. -/
def searchOrder (p : Position root) : List (Position root) := levels p.node.height p.children

/-- The nodes below a node that a selector matches. -/
def matching (p : Position root) (s : Selector) : List (Position root) :=
  p.searchOrder.filter fun q => s.matchesNode q.node

theorem levels_nil (depth : Nat) : levels depth ([] : List (Position root)) = [] := by
  cases depth <;> rfl

theorem levels_succ (depth : Nat) (level : List (Position root)) :
    levels (depth + 1) level =
      level.filter isSearched ++ levels depth ((level.filter isSearched).flatMap children) := by
  rw [levels]
  split
  · rename_i none
    rw [List.isEmpty_iff] at none
    rw [none, List.flatMap_nil, levels_nil, List.append_nil]
  · rfl

theorem height_of_mem_next {depth : Nat} {level : List (Position root)}
    (deep : ∀ q ∈ level, q.node.height ≤ depth + 1) {r : Position root}
    (h : r ∈ (level.filter isSearched).flatMap children) : r.node.height ≤ depth := by
  obtain ⟨q, hq, child⟩ := List.mem_flatMap.mp h
  have := deep q (List.mem_filter.mp hq).1
  have := height_of_mem_children child
  omega

/-- A search that goes as deep as the nodes do is not cut short. -/
theorem levels_of_height_le {depth : Nat} {level : List (Position root)}
    (deep : ∀ q ∈ level, q.node.height ≤ depth) : levels (depth + 1) level = levels depth level := by
  induction depth generalizing level with
  | zero =>
    have none : level = [] := by
      refine List.eq_nil_iff_forall_not_mem.mpr fun q hq => ?_
      have := deep q hq
      rw [Node.height_eq] at this
      omega
    rw [none, levels_nil, levels_nil]
  | succ depth ih =>
    rw [levels_succ, ih fun r => height_of_mem_next deep, ← levels_succ]

/-- A search below a node takes its children and searches on below each of them. -/
theorem searchOrder_eq (p : Position root) :
    p.searchOrder = p.children.filter isSearched ++
      levels p.node.height ((p.children.filter isSearched).flatMap children) := by
  rw [← levels_succ, searchOrder]
  exact (levels_of_height_le fun q hq => (height_of_mem_children hq).le).symm

/-- A search takes the level it starts at, and with a node also its children. -/
private theorem mem_levels_step {depth : Nat} {level : List (Position root)} {q r : Position root}
    (deep : ∀ q ∈ level, q.node.height ≤ depth) (hq : q ∈ levels depth level)
    (child : r ∈ q.children) (searched : r.isSearched = true) : r ∈ levels depth level := by
  induction depth generalizing level with
  | zero => cases hq
  | succ depth ih =>
    have next : ∀ r ∈ (level.filter isSearched).flatMap children, r.node.height ≤ depth :=
      fun r => height_of_mem_next deep
    rw [levels_succ] at hq ⊢
    refine List.mem_append_right _ ?_
    rcases List.mem_append.mp hq with here | later
    · have listed := List.mem_flatMap.mpr ⟨q, here, child⟩
      rw [← levels_of_height_le next, levels_succ]
      exact List.mem_append_left _ (List.mem_filter.mpr ⟨listed, searched⟩)
    · exact ih next later

private theorem below_of_mem_levels {p q : Position root} {depth : Nat}
    {level : List (Position root)}
    (start : ∀ r ∈ level, r.isSearched = true → p.Below r) (h : q ∈ levels depth level) :
    p.Below q := by
  induction depth generalizing level with
  | zero => cases h
  | succ depth ih =>
    rw [levels_succ] at h
    rcases List.mem_append.mp h with here | later
    · obtain ⟨among, searched⟩ := List.mem_filter.mp here
      exact start q among searched
    · refine ih (fun r hr searched => ?_) later
      obtain ⟨m, hm, child⟩ := List.mem_flatMap.mp hr
      obtain ⟨among, inner⟩ := List.mem_filter.mp hm
      exact (start m among inner).deeper child searched

/-- A search below a node reaches what is below it. -/
theorem mem_searchOrder {p q : Position root} : q ∈ p.searchOrder ↔ p.Below q := by
  constructor
  · exact below_of_mem_levels fun r child searched => .child child searched
  · intro h
    induction h with
    | child among searched =>
      rw [searchOrder_eq]
      exact List.mem_append_left _ (List.mem_filter.mpr ⟨among, searched⟩)
    | deeper _ among searched ih =>
      exact mem_levels_step (fun q hq => (height_of_mem_children hq).le) ih among searched

theorem mem_matching {p q : Position root} {s : Selector} :
    q ∈ p.matching s ↔ p.Below q ∧ s.matchesNode q.node = true := by
  rw [matching, List.mem_filter, mem_searchOrder]

/-! ## The order of a search -/

/-- Whether a node is searched before another: it stands higher, or as high and further left. -/
def Earlier (p q : Position root) : Prop := List.Shortlex (· < ·) p.path q.path

theorem Earlier.ne {p q : Position root} (h : p.Earlier q) : p ≠ q := by
  rintro rfl
  exact (Std.Asymm.asymm (r := List.Shortlex (· < ·)) _ _ h) h

theorem sorted_children (p : Position root) : p.children.Pairwise Earlier := by
  have paths : (p.children.map path).Pairwise (List.Shortlex (· < ·)) := by
    rw [map_path_children, List.pairwise_map]
    refine List.pairwise_lt_range.imp fun less => ?_
    exact List.Shortlex.append_left ((List.shortlex_singleton_iff _ _).mpr less) _
  rw [List.pairwise_map] at paths
  exact paths

private theorem lex_append {s t : List Nat} (h : List.Lex (· < ·) s t) (level : s.length = t.length)
    (u v : List Nat) : List.Lex (· < ·) (s ++ u) (t ++ v) := by
  induction h with
  | nil => cases level
  | cons _ ih => exact .cons (ih (Nat.succ.inj level))
  | rel less => exact .rel less

/-- The children of one node are searched before those of a later one that is as deep. -/
private theorem earlier_children {p q c d : Position root} (h : p.Earlier q)
    (level : p.path.length = q.path.length) (hc : c ∈ p.children) (hd : d ∈ q.children) :
    c.Earlier d := by
  obtain ⟨i, hi⟩ := exists_path_of_mem_children hc
  obtain ⟨j, hj⟩ := exists_path_of_mem_children hd
  have lex := (List.shortlex_iff_lex level).mp h
  unfold Earlier
  rw [hi, hj]
  exact .of_lex (by simp [level]) (lex_append lex level _ _)

private theorem length_of_mem_next {n : Nat} {level : List (Position root)}
    (start : ∀ q ∈ level, q.path.length = n) {r : Position root}
    (h : r ∈ (level.filter isSearched).flatMap children) : r.path.length = n + 1 := by
  obtain ⟨q, hq, child⟩ := List.mem_flatMap.mp h
  obtain ⟨k, e⟩ := exists_path_of_mem_children child
  rw [e, List.length_append, start q (List.mem_filter.mp hq).1, List.length_singleton]

private theorem le_length_of_mem_levels {depth n : Nat} {level : List (Position root)}
    (start : ∀ q ∈ level, q.path.length = n) {q : Position root} (h : q ∈ levels depth level) :
    n ≤ q.path.length := by
  induction depth generalizing level n with
  | zero => cases h
  | succ depth ih =>
    rw [levels_succ] at h
    rcases List.mem_append.mp h with here | later
    · exact (start q (List.mem_filter.mp here).1).ge
    · exact Nat.le_of_succ_le (ih (fun r => length_of_mem_next start) later)

private theorem sorted_levels {depth n : Nat} {level : List (Position root)}
    (start : ∀ q ∈ level, q.path.length = n) (sorted : level.Pairwise Earlier) :
    (levels depth level).Pairwise Earlier := by
  induction depth generalizing level n with
  | zero => exact .nil
  | succ depth ih =>
    have here : (level.filter isSearched).Pairwise Earlier := sorted.filter _
    have next : ∀ r ∈ (level.filter isSearched).flatMap children, r.path.length = n + 1 :=
      fun r => length_of_mem_next start
    rw [levels_succ, List.pairwise_append]
    refine ⟨here, ih next ?_, fun q hq r hr => ?_⟩
    · refine List.pairwise_flatMap.mpr ⟨fun q _ => q.sorted_children, ?_⟩
      refine here.imp_of_mem fun hq hr before c hc d hd => earlier_children before ?_ hc hd
      rw [start _ (List.mem_filter.mp hq).1, start _ (List.mem_filter.mp hr).1]
    · refine .of_length_lt ?_
      rw [start q (List.mem_filter.mp hq).1]
      exact le_length_of_mem_levels next hr

private theorem length_of_mem_children {p q : Position root} (h : q ∈ p.children) :
    q.path.length = p.path.length + 1 := by
  obtain ⟨k, e⟩ := exists_path_of_mem_children h
  rw [e, List.length_append, List.length_singleton]

theorem sorted_searchOrder (p : Position root) : p.searchOrder.Pairwise Earlier :=
  sorted_levels (fun _ => length_of_mem_children) p.sorted_children

/-- A search below a node reaches its children first, and then only what stands deeper. -/
theorem searchOrder_deeper (p : Position root) :
    ∃ deeper, p.searchOrder = p.children.filter isSearched ++ deeper ∧
      ∀ q ∈ deeper, p.path.length + 2 ≤ q.path.length :=
  ⟨_, p.searchOrder_eq, fun _ => le_length_of_mem_levels fun _ =>
    length_of_mem_next fun _ => length_of_mem_children⟩

theorem nodup_searchOrder (p : Position root) : p.searchOrder.Nodup :=
  p.sorted_searchOrder.imp Earlier.ne

theorem nodup_matching (p : Position root) (s : Selector) : (p.matching s).Nodup :=
  p.nodup_searchOrder.filter _

/-! ## Document order -/

/-- Whether a node comes before another in document order: it is around the other, or stands
further left where the ways to them part. -/
def Precedes (p q : Position root) : Prop := p.path < q.path

theorem precedes_trichotomy (p q : Position root) : p.Precedes q ∨ p = q ∨ q.Precedes p := by
  rcases lt_trichotomy p.path q.path with before | same | after
  · exact .inl before
  · exact .inr (.inl (ext_path same))
  · exact .inr (.inr after)

/-- Of two nodes the one searched first stands higher, or as high and first in the document. -/
theorem earlier_iff {p q : Position root} :
    p.Earlier q ↔ p.path.length < q.path.length ∨
      p.path.length = q.path.length ∧ p.Precedes q := by
  rw [Earlier, List.shortlex_def]
  rfl

/-- Nodes in the order of a search are in document order just if none of them stands higher than one
that comes before it in the document. -/
theorem pairwise_precedes_iff {ps : List (Position root)} (sorted : ps.Pairwise Earlier) :
    ps.Pairwise Precedes ↔
      ∀ p ∈ ps, ∀ q ∈ ps, p.Precedes q → p.path.length ≤ q.path.length := by
  constructor
  · intro inOrder
    refine List.Pairwise.forall_of_forall_of_flip (fun p _ _ => le_rfl) ?_ ?_
    · refine sorted.imp fun before _ => ?_
      rcases earlier_iff.mp before with higher | ⟨level, _⟩
      · exact higher.le
      · exact level.le
    · refine inOrder.imp fun {p q} before after => ?_
      exact absurd after (lt_asymm (a := p.path) before)
  · intro level
    refine sorted.imp_of_mem fun {p q} hp hq before => ?_
    rcases earlier_iff.mp before with higher | ⟨_, first⟩
    · rcases precedes_trichotomy p q with first | rfl | last
      · exact first
      · omega
      · have := level q hq p hp last
        omega
    · exact first

/-! ## The parents of what is found -/

/-- How many children of a node a selector matches. -/
def countChildren (s : Selector) (q : Position root) : Nat :=
  q.children.countP fun c => s.matchesNode c.node

private theorem parents_children (s : Selector) (q : Position root) :
    ((q.children.filter isSearched).filter fun c => s.matchesNode c.node).filterMap parent? =
      List.replicate (q.countChildren s) q := by
  rw [filter_searched, countChildren, List.countP_eq_length_filter, ← List.map_const',
    ← List.filterMap_eq_map]
  refine List.filterMap_congr fun c hc => ?_
  exact parent?_of_mem_children (List.mem_filter.mp hc).1

private theorem parents_flatMap (s : Selector) (level : List (Position root)) :
    (((level.flatMap children).filter isSearched).filter
        fun q => s.matchesNode q.node).filterMap parent? =
      level.flatMap fun q => List.replicate (q.countChildren s) q := by
  rw [List.filter_flatMap, List.filter_flatMap, List.filterMap_flatMap]
  exact List.flatMap_congr fun q _ => parents_children s q

private theorem parents_levels (s : Selector) (depth : Nat) (level : List (Position root)) :
    ((levels (depth + 1) (level.flatMap children)).filter
        fun q => s.matchesNode q.node).filterMap parent? =
      (level ++ levels depth (level.flatMap children)).flatMap
        fun q => List.replicate (q.countChildren s) q := by
  induction depth generalizing level with
  | zero =>
    rw [levels_succ, levels, levels, List.append_nil, List.append_nil, parents_flatMap]
  | succ depth ih =>
    rw [levels_succ, List.filter_append, List.filterMap_append, parents_flatMap, ih,
      ← levels_succ, List.flatMap_append]

/-- The parents of what a search finds, in the order of the search, each once for each of its
children that was found. -/
theorem parents_matching (p : Position root) (s : Selector) :
    (p.matching s).filterMap parent? =
      (p :: p.searchOrder).flatMap fun q => List.replicate (q.countChildren s) q := by
  have whole : levels (p.node.height + 1) p.children = p.searchOrder :=
    levels_of_height_le fun q hq => (height_of_mem_children hq).le
  have parents := parents_levels s p.node.height [p]
  rw [List.flatMap_singleton, whole] at parents
  exact parents

end Position

end ApiReference.Html
