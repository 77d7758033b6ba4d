import ApiReference.Proofs.Html.Search

/-!
What a search with a queue of sibling lists visits. One round through the queue visits the matches
of a level and leaves the children of that level in the queue (`scanQueue_round`), so the search
visits the matches level by level (`scanQueue_eq`), until the visitor stops (`scan_eq`). All that a
selector matches below a node is found, once each, higher nodes first and as high ones in document
order, and a chain finds below each match what its other selectors find there
(`selectAll_levelOrder`). The search for the first match finds the first of all matches
(`query_first`).
-/

namespace ApiReference.Html

theorem Node.size_eq (n : Node) : n.size = sizeOfAll n.children + 1 := by
  obtain ⟨label, cs⟩ := n
  rw [Node.size, Node.children]

theorem sizeOfAll_eq (ns : List Node) : sizeOfAll ns = (ns.map Node.size).sum := by
  induction ns with
  | nil => rfl
  | cons n rest ih => rw [sizeOfAll, ih, List.map_cons, List.sum_cons]

namespace Position

variable {root : Node} {σ τ : Type}

/-- The number of nodes of a level and below it. -/
def weight (level : List (Position root)) : Nat := (level.map fun q => q.node.size).sum

theorem weight_children (p : Position root) : weight p.children + 1 = p.node.size := by
  rw [p.node.size_eq, sizeOfAll_eq, ← map_node_children, List.map_map]
  rfl

/-- A level and all below it are as many nodes as the level and all below its children. -/
theorem weight_next (level : List (Position root)) :
    (level.filter isSearched).length + weight ((level.filter isSearched).flatMap children) ≤
      weight level := by
  induction level with
  | nil => exact Nat.le_refl 0
  | cons q level ih =>
    have whole : weight (q :: level) = q.node.size + weight level := by
      rw [weight, List.map_cons, List.sum_cons, weight]
    rw [whole, List.filter_cons]
    split
    · have split : weight ((q :: level.filter isSearched).flatMap children) =
          weight q.children + weight ((level.filter isSearched).flatMap children) := by
        rw [weight, List.flatMap_cons, List.map_append, List.sum_append, weight, weight]
      have := q.weight_children
      rw [split, List.length_cons]
      omega
    · omega

/-! ## Visits -/

variable (s : Selector) (visit : σ → Position root → Except τ σ)

/-- A walk along siblings visits the matches among them and queues the children of all that are
searched. -/
theorem scanSiblings_eq (siblings : List (Position root)) (queue : List (List (Position root)))
    (sofar : σ) :
    scanSiblings s visit siblings queue sofar =
      ((siblings.filter fun q => s.matchesNode q.node).foldlM visit sofar).map fun sofar =>
        (queue ++ (siblings.filter isSearched).map children, sofar) := by
  induction siblings generalizing queue sofar with
  | nil =>
    rw [scanSiblings, List.filter_nil, List.filter_nil, List.map_nil, List.append_nil]
    rfl
  | cons q siblings ih =>
    rw [scanSiblings, List.filter_cons, List.filter_cons]
    by_cases searched : q.isSearched = true
    · have later (sofar : σ) := ih (queue ++ [q.children]) sofar
      simp only [List.append_assoc, List.singleton_append] at later
      rw [if_pos searched, if_pos searched, List.map_cons]
      by_cases found : s.matchesNode q.node = true
      · rw [if_pos found, if_pos found, List.foldlM_cons]
        cases visit sofar q with
        | error stopped => rfl
        | ok sofar => exact later sofar
      · rw [if_neg found, if_neg found]
        exact later sofar
    · have other : ¬s.matchesNode q.node = true := fun found =>
        searched (isSearched_of_matchesNode found)
      rw [if_neg searched, if_neg searched, if_neg other]
      exact ih _ _

/-- One round through the lists of a level visits the matches in them, and then the queue holds the
children of that level. -/
theorem scanQueue_round (fuel : Nat) (current next : List (List (Position root))) (sofar : σ) :
    scanQueue s visit (current.length + fuel) (current ++ next) sofar =
      ((current.flatten.filter fun q => s.matchesNode q.node).foldlM visit sofar) >>=
        scanQueue s visit fuel (next ++ (current.flatten.filter isSearched).map children) := by
  induction current generalizing next sofar with
  | nil =>
    rw [List.length_nil, Nat.zero_add, List.nil_append, List.flatten_nil, List.filter_nil,
      List.filter_nil, List.map_nil, List.append_nil]
    rfl
  | cons siblings current ih =>
    rw [List.length_cons, Nat.add_right_comm, List.cons_append, scanQueue, scanSiblings_eq,
      List.flatten_cons, List.filter_append, List.filter_append, List.foldlM_append,
      List.map_append, ← List.append_assoc]
    cases (siblings.filter fun q => s.matchesNode q.node).foldlM visit sofar with
    | error stopped => rfl
    | ok sofar =>
      show scanQueue s visit _ (current ++ next ++ (siblings.filter isSearched).map children)
        sofar = _
      rw [List.append_assoc]
      exact ih _ _

/-- A search visits the matches level by level, if it has fuel for all nodes that are left. -/
theorem scanQueue_eq {depth fuel : Nat} {queue : List (List (Position root))}
    (deep : ∀ q ∈ queue.flatten, q.node.height ≤ depth)
    (enough : queue.length + weight queue.flatten ≤ fuel) (sofar : σ) :
    scanQueue s visit fuel queue sofar =
      ((levels depth queue.flatten).filter fun q => s.matchesNode q.node).foldlM visit sofar := by
  induction depth generalizing fuel queue sofar with
  | zero =>
    have none : queue.flatten = [] := by
      refine List.eq_nil_iff_forall_not_mem.mpr fun q hq => ?_
      have := deep q hq
      rw [Node.height_eq] at this
      omega
    obtain ⟨left, rfl⟩ := Nat.exists_eq_add_of_le (Nat.le_of_add_right_le enough)
    have round := scanQueue_round s visit left queue [] sofar
    rw [List.append_nil, List.nil_append, none] at round
    rw [round, none]
    cases left <;> rfl
  | succ depth ih =>
    obtain ⟨left, rfl⟩ := Nat.exists_eq_add_of_le (Nat.le_of_add_right_le enough)
    have round := scanQueue_round s visit left queue [] sofar
    rw [List.append_nil, List.nil_append] at round
    have next : ((queue.flatten.filter isSearched).map children).flatten =
        (queue.flatten.filter isSearched).flatMap children := List.flatMap_def.symm
    have lighter := weight_next queue.flatten
    rw [round, levels_succ, List.filter_append, filter_searched, List.foldlM_append, ← next]
    congr 1
    funext sofar
    refine ih ?_ ?_ sofar
    · rw [next]
      exact fun r => height_of_mem_next deep
    · rw [List.length_map, next]
      omega

/-- A search with one selector visits its matches below a node. -/
private theorem scanQueue_children (p : Position root) (sofar : σ) :
    scanQueue s visit p.node.size [p.children] sofar = (p.matching s).foldlM visit sofar := by
  have below : [p.children].flatten = p.children := by simp
  have deep : ∀ q ∈ [p.children].flatten, q.node.height ≤ p.node.height := by
    rw [below]
    exact fun q hq => (height_of_mem_children hq).le
  have enough : [p.children].length + weight [p.children].flatten ≤ p.node.size := by
    rw [below, ← p.weight_children, List.length_singleton, Nat.add_comm]
  rw [scanQueue_eq s visit deep enough, below, matching, searchOrder]

/-! ## All matches -/

/-- What a search lists is what it visits. -/
private theorem selectAll_of_scan {p : Position root} {chain : List Selector}
    {found : List (Position root)}
    (h : ∀ {σ τ : Type} (visit : σ → Position root → Except τ σ) (sofar : σ),
      scan visit chain p sofar = found.foldlM visit sofar) :
    p.selectAll chain = found := by
  have listed (found sofar : List (Position root)) :
      found.foldlM (fun found q => (.ok (q :: found) : Except Empty _)) sofar =
        .ok (found.reverse ++ sofar) := by
    induction found generalizing sofar with
    | nil => rfl
    | cons q found ih =>
      rw [List.reverse_cons, List.append_assoc]
      exact ih (q :: sofar)
  rw [selectAll, h, listed]
  simp

private theorem foldlM_flatMap {α β : Type} (f : α → List β) (visit : σ → β → Except τ σ)
    (xs : List α) (sofar : σ) :
    (xs.flatMap f).foldlM visit sofar =
      xs.foldlM (fun sofar x => (f x).foldlM visit sofar) sofar := by
  induction xs generalizing sofar with
  | nil => rfl
  | cons x xs ih =>
    rw [List.flatMap_cons, List.foldlM_append, List.foldlM_cons]
    exact bind_congr fun sofar => ih sofar

theorem selectAll_nil (p : Position root) : p.selectAll [] = [] :=
  selectAll_of_scan fun _ _ => rfl

theorem selectAll_single (p : Position root) (s : Selector) : p.selectAll [s] = p.matching s :=
  selectAll_of_scan fun visit => scanQueue_children s visit p

private theorem scan_cons {t : Selector} {rest : List Selector}
    (inner : ∀ {σ τ : Type} (visit : σ → Position root → Except τ σ) (q : Position root) (sofar : σ),
      scan visit (t :: rest) q sofar = (q.selectAll (t :: rest)).foldlM visit sofar)
    (s : Selector) (p : Position root) {σ τ : Type} (visit : σ → Position root → Except τ σ)
    (sofar : σ) :
    scan visit (s :: t :: rest) p sofar =
      ((p.matching s).flatMap fun q => q.selectAll (t :: rest)).foldlM visit sofar := by
  rw [scan, scanQueue_children, foldlM_flatMap]
  simp only [inner]

/-- A search visits what it lists, in that order, until the visitor stops. -/
theorem scan_eq {σ τ : Type} (visit : σ → Position root → Except τ σ) (chain : List Selector)
    (p : Position root) (sofar : σ) :
    scan visit chain p sofar = (p.selectAll chain).foldlM visit sofar := by
  induction chain generalizing σ τ p with
  | nil =>
    rw [selectAll_nil]
    rfl
  | cons s rest ih =>
    cases rest with
    | nil =>
      rw [selectAll_single]
      exact scanQueue_children s visit p sofar
    | cons t rest =>
      have inner {σ τ : Type} (visit : σ → Position root → Except τ σ) (q : Position root)
          (sofar : σ) := ih visit q sofar
      rw [selectAll_of_scan (scan_cons inner s p), scan_cons inner]

theorem selectAll_cons (p : Position root) (s t : Selector) (rest : List Selector) :
    p.selectAll (s :: t :: rest) =
      (p.matching s).flatMap fun q => q.selectAll (t :: rest) :=
  selectAll_of_scan (scan_cons (fun visit q => scan_eq visit (t :: rest) q) s p)

/-- No selectors find nothing. One selector finds all it matches below a node, each match once,
higher ones first and as high ones in document order. Several find below each match of the first, in
that order, what the others find there. -/
theorem selectAll_levelOrder (p : Position root) :
    p.selectAll [] = [] ∧
    (∀ s, (∀ q, q ∈ p.selectAll [s] ↔ p.Below q ∧ s.matchesNode q.node = true) ∧
      (p.selectAll [s]).Nodup ∧
      (p.selectAll [s]).Pairwise fun q r =>
        q.path.length < r.path.length ∨ q.path.length = r.path.length ∧ q.Precedes r) ∧
    ∀ s t rest, p.selectAll (s :: t :: rest) =
      (p.selectAll [s]).flatMap fun q => q.selectAll (t :: rest) := by
  refine ⟨p.selectAll_nil, fun s => ?_, fun s t rest => ?_⟩
  · rw [selectAll_single]
    refine ⟨fun q => mem_matching, p.nodup_matching s, ?_⟩
    exact (p.sorted_searchOrder.filter _).imp earlier_iff.mp
  · rw [selectAll_single, selectAll_cons]

/-! ## The first match -/

/-- A search that ends at its first match ends at the first of all matches. -/
theorem selectFirst?_eq (p : Position root) (chain : List Selector) :
    p.selectFirst? chain = (p.selectAll chain).head? := by
  rw [selectFirst?, scan_eq]
  cases p.selectAll chain with
  | nil => rfl
  | cons first later => rfl

theorem selectFirst?_single (p : Position root) (s : Selector) :
    p.selectFirst? [s] = p.searchOrder.find? fun q => s.matchesNode q.node := by
  rw [selectFirst?_eq, selectAll_single, matching, List.head?_filter]

/-- A match of the first selector below which nothing is found does not end the search; the first
one below which something is found does. -/
theorem selectFirst?_cons (p : Position root) (s t : Selector) (rest : List Selector) :
    p.selectFirst? (s :: t :: rest) =
      (p.matching s).findSome? fun q => q.selectFirst? (t :: rest) := by
  rw [selectFirst?_eq, selectAll_cons, List.head?_flatMap]
  simp only [selectFirst?_eq]

theorem query?_eq (p : Position root) (first : String) (nested : List String) :
    p.query? first nested = (p.queryAll first nested).map List.head? := by
  unfold query? queryAll
  cases Selector.parseChain first nested with
  | error fault => rfl
  | ok chain => exact congrArg Except.ok (p.selectFirst?_eq chain)

/-- A query for the first match fails as the query for all matches does, and otherwise its answer is
the first of these. With one selector the search ends at the first node that it matches, with
several below the first match of the first selector below which the others find anything. -/
theorem query_first (p : Position root) (first : String) (nested : List String) :
    (∀ fault, p.query? first nested = .error fault ↔ p.queryAll first nested = .error fault) ∧
    (∀ answer, p.query? first nested = .ok answer ↔
      ∃ found, p.queryAll first nested = .ok found ∧ answer = found.head?) ∧
    (∀ s, p.selectFirst? [s] = p.searchOrder.find? fun q => s.matchesNode q.node) ∧
    ∀ s t rest, p.selectFirst? (s :: t :: rest) =
      (p.selectAll [s]).findSome? fun q => q.selectFirst? (t :: rest) := by
  rw [query?_eq]
  refine ⟨fun fault => ?_, fun answer => ?_, p.selectFirst?_single, fun s t rest => ?_⟩
  · cases p.queryAll first nested <;> simp [Except.map]
  · cases p.queryAll first nested <;> simp [Except.map, eq_comm]
  · rw [selectAll_single, selectFirst?_cons]

end Position

end ApiReference.Html
