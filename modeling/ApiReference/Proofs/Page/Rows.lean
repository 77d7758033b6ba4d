import ApiReference.Page.Rows
import ApiReference.Proofs.Html.Queue
import ApiReference.Proofs.Outcome
import ApiReference.Proofs.Page.Entries

/-!
The rows that fields and parameters are read off. A table is read by every row with cells below a
part of its body, at any depth, once for each such part around the row (`listedRows`). The rows of
the table itself are among them; they are all, and each of them is read once, just if no row stands
deeper (`rows_described`). The rows of a table inside a cell are read as well, and twice
(`nested_rows_read`).
-/

namespace ApiReference.Page

open Html

variable {root : Node}

/-- The cells of a row. -/
def cellsOf (row : Position root) : List (Position root) :=
  row.children.filter fun cell => cell.node.name == "td"

/-- Whether a node is a part of the body of a table. -/
def IsBody (p : Position root) : Prop := (Selector.ofTag "tbody").matchesNode p.node = true

/-- Whether a node is a row with cells. -/
structure IsRow (p : Position root) : Prop where
  row : (Selector.ofTag "tr").matchesNode p.node = true
  filled : ∃ cell ∈ p.children, cell.node.name = "td"

instance : DecidablePred (@IsBody root) := fun _ => inferInstanceAs (Decidable (_ = _))

theorem isRow_iff {p : Position root} :
    IsRow p ↔ (Selector.ofTag "tr").matchesNode p.node = true ∧ cellsOf p ≠ [] := by
  have filled : cellsOf p ≠ [] ↔ ∃ cell ∈ p.children, cell.node.name = "td" := by
    simp [cellsOf]
  rw [filled]
  exact ⟨fun h => ⟨h.row, h.filled⟩, fun h => ⟨h.1, h.2⟩⟩

instance : DecidablePred (@IsRow root) := fun _ => decidable_of_iff' _ isRow_iff

/-- The rows of a table itself: those with cells in its body, in order. -/
def ownRows (table : Position root) : List (Position root) :=
  (table.children.filter fun body => decide (IsBody body)).flatMap fun body =>
    body.children.filter fun row => decide (IsRow row)

/-- The rows with cells below a node, in the order of a search. -/
def rowsBelow (p : Position root) : List (Position root) :=
  p.searchOrder.filter fun row => decide (IsRow row)

/-- The rows that a table is read by: those below each part of a body that stands below it, whether
that is its own or one of another table. -/
def listedRows (table : Position root) : List (Position root) :=
  (table.searchOrder.filter fun body => decide (IsBody body)).flatMap rowsBelow

/-- Whether all rows with cells below a table's body are rows of the table itself. -/
def Flat (table : Position root) : Prop :=
  ∀ body row, table.Below body → IsBody body → body.Below row → IsRow row → row ∈ ownRows table

theorem rowsOf_eq (table : Position root) : rowsOf table = (listedRows table).map cellsOf := by
  have rows (p : Position root) :
      (p.matching (.ofTag "tr")).filter (fun row => !(cellsOf row).isEmpty) = rowsBelow p := by
    rw [Position.matching, rowsBelow, List.filter_filter]
    refine List.filter_congr fun row _ => ?_
    rw [Bool.eq_iff_iff, decide_eq_true_eq, isRow_iff, and_comm]
    simp
  have bodies : table.matching (.ofTag "tbody") =
      table.searchOrder.filter fun body => decide (IsBody body) := by
    refine List.filter_congr fun body _ => ?_
    rw [Bool.eq_iff_iff, decide_eq_true_eq, IsBody]
  show List.filter (fun cells => !cells.isEmpty) (List.map cellsOf _) = _
  rw [List.filter_map, Position.selectAll_cons, List.filter_flatMap, bodies, listedRows]
  simp only [Position.selectAll_single, Function.comp_def, rows]

/-! ## Deeper rows -/

theorem isSearched_of_isBody {p : Position root} (h : IsBody p) : p.isSearched = true :=
  Position.isSearched_of_matchesNode h

theorem isSearched_of_isRow {p : Position root} (h : IsRow p) : p.isSearched = true :=
  Position.isSearched_of_matchesNode h.row

/-- A search finds children first, and then only what stands deeper. -/
private theorem filter_searchOrder {P : Position root → Prop} [DecidablePred P]
    (searched : ∀ q, P q → q.isSearched = true) (p : Position root) :
    ∃ deeper, (p.searchOrder.filter fun q => decide (P q)) =
        (p.children.filter fun q => decide (P q)) ++ deeper ∧
      ∀ q ∈ deeper, p.path.length + 2 ≤ q.path.length := by
  obtain ⟨deeper, split, low⟩ := p.searchOrder_deeper
  refine ⟨deeper.filter fun q => decide (P q), ?_, fun q hq => low q (List.mem_filter.mp hq).1⟩
  rw [split, List.filter_append, List.filter_filter]
  congr 1
  refine List.filter_congr fun q _ => ?_
  rw [Bool.and_eq_left_iff_imp, decide_eq_true_eq]
  exact searched q

theorem mem_rowsBelow {p row : Position root} : row ∈ rowsBelow p ↔ p.Below row ∧ IsRow row := by
  rw [rowsBelow, List.mem_filter, Position.mem_searchOrder, decide_eq_true_eq]

theorem mem_listedRows {table row : Position root} :
    row ∈ listedRows table ↔
      ∃ body, table.Below body ∧ IsBody body ∧ body.Below row ∧ IsRow row := by
  simp only [listedRows, List.mem_flatMap, List.mem_filter, Position.mem_searchOrder,
    decide_eq_true_eq, mem_rowsBelow, and_assoc]

/-- The rows of a table itself are read, in their order. -/
theorem own_sublist_listed (table : Position root) :
    (ownRows table).Sublist (listedRows table) := by
  obtain ⟨deeper, bodies, -⟩ := filter_searchOrder (fun _ => isSearched_of_isBody) table
  rw [listedRows, bodies, List.flatMap_append]
  refine List.Sublist.trans ?_ (List.sublist_append_left _ _)
  refine List.Sublist.flatMap_right _ fun body _ => ?_
  obtain ⟨later, rows, -⟩ := filter_searchOrder (fun _ => isSearched_of_isRow) body
  rw [rowsBelow, rows]
  exact List.sublist_append_left _ _

/-- A row of a table itself stands two steps below the table. -/
theorem length_of_mem_ownRows {table row : Position root} (h : row ∈ ownRows table) :
    row.path.length = table.path.length + 2 := by
  obtain ⟨body, among, child⟩ := List.mem_flatMap.mp h
  obtain ⟨i, first⟩ := Position.exists_path_of_mem_children (List.mem_filter.mp among).1
  obtain ⟨j, second⟩ := Position.exists_path_of_mem_children (List.mem_filter.mp child).1
  rw [second, first]
  simp

/-- If no row stands deeper, the table is read by its own rows, once each. -/
theorem listedRows_eq_ownRows {table : Position root} (flat : Flat table) :
    listedRows table = ownRows table := by
  have level (body : Position root) (below : table.Below body) (isBody : IsBody body) :
      ∀ row ∈ rowsBelow body, row.path.length = table.path.length + 2 := fun row listed =>
    length_of_mem_ownRows
      (flat body row below isBody (mem_rowsBelow.mp listed).1 (mem_rowsBelow.mp listed).2)
  have found {body : Position root}
      (listed : body ∈ table.searchOrder.filter fun body => decide (IsBody body)) :
      table.Below body ∧ IsBody body := by
    rwa [List.mem_filter, Position.mem_searchOrder, decide_eq_true_eq] at listed
  obtain ⟨deeper, bodies, low⟩ := filter_searchOrder (fun _ => isSearched_of_isBody) table
  have own : ∀ body ∈ table.children.filter fun body => decide (IsBody body),
      rowsBelow body = body.children.filter fun row => decide (IsRow row) := by
    intro body among
    obtain ⟨below, isBody⟩ := found (bodies ▸ List.mem_append_left deeper among)
    obtain ⟨i, path⟩ := Position.exists_path_of_mem_children (List.mem_filter.mp among).1
    obtain ⟨later, rows, low⟩ := filter_searchOrder (fun _ => isSearched_of_isRow) body
    have none : later = [] := by
      refine List.eq_nil_iff_forall_not_mem.mpr fun row hr => ?_
      have here := level body below isBody row (by rw [rowsBelow, rows]; simp [hr])
      have := low row hr
      rw [path, List.length_append, List.length_singleton] at this
      omega
    rw [rowsBelow, rows, none, List.append_nil]
  have others : deeper.flatMap rowsBelow = [] := by
    refine List.flatMap_eq_nil_iff.mpr fun body hb => ?_
    obtain ⟨below, isBody⟩ := found (bodies ▸ List.mem_append_right _ hb)
    refine List.eq_nil_iff_forall_not_mem.mpr fun row listed => ?_
    have here := level body below isBody row listed
    have := low body hb
    have := (mem_rowsBelow.mp listed).1.length_lt
    omega
  rw [listedRows, bodies, List.flatMap_append, others, List.append_nil, ownRows]
  exact List.flatMap_congr own

/-! ## What is read off the rows -/

/-- Whether values are read off rows: one off each row, in their order. -/
def ReadOff {α : Type} (read : Nat → List (Position root) → Except PageFault α) :
    List (Position root) → List α → Prop :=
  List.Forall₂ fun row value => ∃ number, read number (cellsOf row) = .ok value

theorem readOff_of_readRows {α : Type}
    {read : Nat → List (Position root) → Except PageFault α} {number : Nat}
    {rows : List (Position root)} {values : List α}
    (h : readRows read number (rows.map cellsOf) = .ok values) : ReadOff read rows values := by
  induction rows generalizing number values with
  | nil =>
    cases h
    exact .nil
  | cons row rows ih =>
    rw [List.map_cons, readRows] at h
    obtain ⟨first, here, h⟩ := of_bind_ok h
    obtain ⟨rest, later, h⟩ := of_bind_ok h
    cases h
    exact .cons ⟨number, here⟩ (ih later)

/-- What is read off the listed rows is read off the rows of the table itself just if those are the
listed ones. -/
theorem readOff_ownRows_iff {α : Type}
    {read : Nat → List (Position root) → Except PageFault α} {table : Position root}
    {values : List α} (h : ReadOff read (listedRows table) values) :
    ReadOff read (ownRows table) values ↔ Flat table := by
  constructor
  · intro own body row below isBody inside isRow
    have same := (own_sublist_listed table).eq_of_length (own.length_eq.trans h.length_eq.symm)
    rw [same]
    exact mem_listedRows.mpr ⟨body, below, isBody, inside, isRow⟩
  · intro flat
    rwa [← listedRows_eq_ownRows flat]

/-- The fields and the parameters of a section with a table are read off the rows that its table is
read by, one off each, in the order of the search. The rows of the table itself are among these in
their order; they are all of them, each once, just if no row with cells stands deeper. -/
theorem rows_described {s : Section root} {table : Position root} (h : s.table = some table) :
    (ownRows table).Sublist (listedRows table) ∧
    (∀ row, row ∈ listedRows table ↔
      ∃ body, table.Below body ∧ IsBody body ∧ body.Below row ∧ IsRow row) ∧
    (∀ fields, s.fields = .ok fields →
      ReadOff (fieldOfRow s.title) (listedRows table) fields ∧
      (ReadOff (fieldOfRow s.title) (ownRows table) fields ↔ Flat table)) ∧
    ∀ parameters, s.parameters = .ok parameters →
      ReadOff (parameterOfRow s.title) (listedRows table) parameters ∧
      (ReadOff (parameterOfRow s.title) (ownRows table) parameters ↔ Flat table) := by
  have rows : s.rows = (listedRows table).map cellsOf := by
    rw [Section.rows, h]
    exact rowsOf_eq table
  refine ⟨own_sublist_listed table, fun row => mem_listedRows, fun fields read => ?_,
    fun parameters read => ?_⟩
  · rw [Section.fields, rows] at read
    exact ⟨readOff_of_readRows read, readOff_ownRows_iff (readOff_of_readRows read)⟩
  · rw [Section.parameters, rows] at read
    exact ⟨readOff_of_readRows read, readOff_ownRows_iff (readOff_of_readRows read)⟩

/-! ### Two tables -/

section

private theorem fieldOfRow_string {title wire : String} {number : Nat} {optional : Bool}
    {name type mark description : Position root} (named : cellText name = wire)
    (links : linkTexts type = []) (written : type.node.innerText = "String")
    (plain : hasEmphasis mark = false) (marked : readsOptional mark = optional)
    (silent : cellProse description = "") :
    fieldOfRow title number [name, type, mark, description] =
      .ok ⟨wire, .scalar .string, optional, ""⟩ := by
  have single : WireType.dropArrayOf? "String".toList = none := rfl
  have noUnion : ¬Text.occursIn WireType.unionWord "String".toList = true := by decide
  have word : WireType.ofPageWord (some wire) "String".toList = .ok (.scalar .string) := by cbv
  have read : cellType wire type = .ok (.scalar .string) := by
    rw [cellType, links, written, WireType.ofLinkedText,
      show Text.trim "String".toList = "String".toList from rfl,
      WireType.stripArrays_of_none single]
    dsimp only
    rw [if_neg noUnion, word]
    rfl
  unfold fieldOfRow
  dsimp only
  rw [named, read, plain, marked, silent]
  rfl

private def filledRow (name : String) (mark : List Node) : Node :=
  block "tr" [block "td" [words name], block "td" [words "String"], block "td" mark, block "td" []]

private def tablePage (table : Node) : Node := pageWith [markedHeading "A", table]

private def tableBody (table : Node) : Position (tablePage table) := ⟨[0, 1], _, rfl⟩

private def tableHeading (table : Node) : Position (tablePage table) := ⟨[0, 1, 0], _, rfl⟩

private def tablePosition (table : Node) : Position (tablePage table) := ⟨[0, 1, 1], table, rfl⟩

private def tableSection (table : Node) : Section (tablePage table) :=
  ⟨tableHeading table, "A", false, "", "", some (tablePosition table)⟩

/-- A table with a row of headers and a row of cells. -/
def plainTable : Node :=
  tableOf [block "tr" [block "th" [words "Field"]], filledRow "a" [words "Optional"]]

theorem rows_described_plainTable :
    (tableSection plainTable).table = some (tablePosition plainTable) ∧
    Flat (tablePosition plainTable) ∧
    (tableSection plainTable).fields = .ok [⟨"a", .scalar .string, true, ""⟩] ∧
    ReadOff (fieldOfRow "A") (ownRows (tablePosition plainTable))
      [⟨"a", .scalar .string, true, ""⟩] := by
  have flat : Flat (tablePosition plainTable) := by
    have same : listedRows (tablePosition plainTable) = ownRows (tablePosition plainTable) := rfl
    intro body row below isBody inside isRow
    rw [← same]
    exact mem_listedRows.mpr ⟨body, below, isBody, inside, isRow⟩
  have fields : (tableSection plainTable).fields = .ok [⟨"a", .scalar .string, true, ""⟩] := by
    have rows : (tableSection plainTable).rows = [[⟨[0, 1, 1, 0, 1, 0], _, rfl⟩,
      ⟨[0, 1, 1, 0, 1, 1], _, rfl⟩, ⟨[0, 1, 1, 0, 1, 2], _, rfl⟩,
      ⟨[0, 1, 1, 0, 1, 3], _, rfl⟩]] := rfl
    rw [Section.fields, rows, readRows, readRows,
      fieldOfRow_string (by cbv) rfl (by cbv) rfl (by cbv) (by cbv)]
    rfl
  obtain ⟨-, -, ofFields, -⟩ := rows_described (s := tableSection plainTable) rfl
  exact ⟨rfl, flat, fields, (ofFields _ fields).2.mpr flat⟩

/-- A table with another in one of its cells. -/
def tableInCell : Node :=
  tableOf [filledRow "a" [tableOf [filledRow "b" []]]]

private def outerCells : List (Position (tablePage tableInCell)) :=
  [⟨[0, 1, 1, 0, 0, 0], _, rfl⟩, ⟨[0, 1, 1, 0, 0, 1], _, rfl⟩, ⟨[0, 1, 1, 0, 0, 2], _, rfl⟩,
    ⟨[0, 1, 1, 0, 0, 3], _, rfl⟩]

private def innerCells : List (Position (tablePage tableInCell)) :=
  [⟨[0, 1, 1, 0, 0, 2, 0, 0, 0, 0], _, rfl⟩, ⟨[0, 1, 1, 0, 0, 2, 0, 0, 0, 1], _, rfl⟩,
    ⟨[0, 1, 1, 0, 0, 2, 0, 0, 0, 2], _, rfl⟩, ⟨[0, 1, 1, 0, 0, 2, 0, 0, 0, 3], _, rfl⟩]

/-- The row of the inner table is read twice, along with the one row of the table itself. -/
theorem nested_rows_read :
    ∃ s ∈ plainLayout.sections (tableBody tableInCell), ∃ table, s.table = some table ∧
      (ownRows table).length = 1 ∧
      s.fields = .ok [⟨"a", .scalar .string, false, ""⟩, ⟨"b", .scalar .string, false, ""⟩,
        ⟨"b", .scalar .string, false, ""⟩] := by
  have headings : plainLayout.headings (tableBody tableInCell) = [tableHeading tableInCell] := rfl
  have title : Text.trimmed (tableHeading tableInCell).node.innerText = "A" := by cbv
  have made : plainLayout.section? (tableHeading tableInCell) = some (tableSection tableInCell) :=
    Layout.section?_of_table title (by decide) rfl rfl rfl
  have rows : (tableSection tableInCell).rows = [outerCells, innerCells, innerCells] := rfl
  have outer (number : Nat) : fieldOfRow "A" number outerCells =
      .ok ⟨"a", .scalar .string, false, ""⟩ :=
    fieldOfRow_string (by cbv) rfl (by cbv) rfl (by cbv) (by cbv)
  have inner (number : Nat) : fieldOfRow "A" number innerCells =
      .ok ⟨"b", .scalar .string, false, ""⟩ :=
    fieldOfRow_string (by cbv) rfl (by cbv) rfl (by cbv) (by cbv)
  refine ⟨tableSection tableInCell, ?_, tablePosition tableInCell, rfl, rfl, ?_⟩
  · rw [Layout.sections, headings, List.filterMap_cons, made]
    exact List.mem_cons_self
  · rw [Section.fields, rows, readRows, readRows, readRows, readRows,
      show (tableSection tableInCell).title = "A" from rfl, outer, inner, inner]
    rfl

end

end ApiReference.Page
