import ApiReference.Proofs.Toml.Scalar
import ApiReference.Toml.Document

/-!
Tables that are written out as a document are read back from it (`read_pretty`). The text is read
line by line: a header opens the next table, and each entry goes into the table that is open.
-/

namespace ApiReference.Toml

/-! ## Keys -/

/-- Whether a key can stand without quotes. -/
def IsBare (key : String) : Prop := key ≠ "" ∧ ∀ c ∈ key.toList, isKeyChar c = true

instance (key : String) : Decidable (IsBare key) :=
  inferInstanceAs (Decidable (_ ∧ ∀ c ∈ key.toList, isKeyChar c = true))

/-- A character of a key is none of those that mean something else at the start of a line. -/
theorem ne_of_isKeyChar {c : Char} (h : isKeyChar c = true) :
    c ≠ ' ' ∧ c ≠ '\t' ∧ c ≠ '\n' ∧ c ≠ '\r' ∧ c ≠ '#' ∧ c ≠ '[' ∧ c ≠ '"' ∧ c ≠ '\'' := by
  refine ⟨?_, ?_, ?_, ?_, ?_, ?_, ?_, ?_⟩ <;> (rintro rfl; revert h; decide)

theorem isSpace_of_isKeyChar {c : Char} (h : isKeyChar c = true) : isSpace c = false := by
  simp [isSpace, ne_of_isKeyChar h]

/-- A key starts with a character of a key. -/
theorem IsBare.cons {key : String} (h : IsBare key) :
    ∃ c others, key.toList = c :: others ∧ isKeyChar c = true := by
  have nonempty : key.toList ≠ [] := fun nothing => h.1 (String.toList_eq_nil_iff.mp nothing)
  obtain ⟨c, others, same⟩ := List.exists_cons_of_ne_nil nonempty
  exact ⟨c, others, same, h.2 c (same ▸ List.mem_cons_self)⟩

theorem skipSpace_cons {c : Char} (h : isSpace c = false) (cs : List Char) :
    skipSpace (c :: cs) = c :: cs := by
  rw [skipSpace, List.dropWhile_cons_of_neg (by simp [h])]

theorem readKeyPart_bare {key : String} (h : IsBare key) {c : Char} (stop : isKeyChar c = false)
    (rest : List Char) : readKeyPart (key.toList ++ c :: rest) = some (key, c :: rest) := by
  have taken : (key.toList ++ c :: rest).takeWhile isKeyChar = key.toList := by
    rw [List.takeWhile_append_of_pos h.2, List.takeWhile_cons_of_neg (by simp [stop]),
      List.append_nil]
  obtain ⟨first, others, same, kind⟩ := h.cons
  have nonempty : key.toList.isEmpty = false := by rw [same]; rfl
  unfold readKeyPart
  split
  · rename_i quoted
    rw [same, List.cons_append] at quoted
    exact absurd (List.cons.inj quoted).1 (ne_of_isKeyChar kind).2.2.2.2.2.2.1
  · rename_i quoted
    rw [same, List.cons_append] at quoted
    exact absurd (List.cons.inj quoted).1 (ne_of_isKeyChar kind).2.2.2.2.2.2.2
  · simp only [taken, nonempty, Bool.false_eq_true, if_false, List.drop_left, String.ofList_toList]

/-- A key is read up to the character that ends it. -/
theorem readKey_bare {key : String} (h : IsBare key) {c : Char} (stop : isKeyChar c = false)
    {rest : List Char} (alone : ∀ later, skipSpace (c :: rest) ≠ '.' :: later) (count : Nat) :
    readKey (count + 1) (key.toList ++ c :: rest) = some ([key], skipSpace (c :: rest)) := by
  obtain ⟨first, others, same, kind⟩ := h.cons
  have start : skipSpace (key.toList ++ c :: rest) = key.toList ++ c :: rest := by
    rw [same, List.cons_append, skipSpace_cons (isSpace_of_isKeyChar kind)]
  rw [readKey, start, readKeyPart_bare h stop, Option.bind_eq_bind, Option.bind_some]
  dsimp only
  split
  · rename_i dot
    exact absurd dot (alone _)
  · rfl

/-! ## Entries -/

theorem update_of_new {key : String} {es : Entries} (h : key ∉ es.map Prod.fst)
    (f : Option Item → Option Item) :
    es.update key f = (f none).map fun item => es ++ [(key, item)] := by
  induction es with
  | nil => rw [Entries.update]; rfl
  | cons e es ih =>
    obtain ⟨k, item⟩ := e
    rw [List.map_cons, List.mem_cons, not_or] at h
    have other : (k == key) = false := by simpa using Ne.symm h.1
    rw [Entries.update, other, ih h.2]
    cases f none <;> rfl

theorem update_of_last {key : String} {es : Entries} (h : key ∉ es.map Prod.fst) (item : Item)
    (f : Option Item → Option Item) :
    Entries.update key f (es ++ [(key, item)]) =
      (f (some item)).map fun changed => es ++ [(key, changed)] := by
  induction es with
  | nil =>
    rw [List.nil_append, Entries.update, beq_self_eq_true, if_pos rfl]
    rfl
  | cons e es ih =>
    obtain ⟨k, other⟩ := e
    rw [List.map_cons, List.mem_cons, not_or] at h
    have apart : (k == key) = false := by simpa using Ne.symm h.1
    rw [List.cons_append, Entries.update, apart, ih h.2]
    cases f (some item) <;> rfl

theorem openTable_new {name : String} {r : Reading} (h : name ∉ r.entries.map Prod.fst) :
    r.openTable [name] = some ⟨r.entries ++ [(name, .table .header [])], [name]⟩ := by
  rw [Reading.openTable]
  simp only [List.getLast?_singleton, Option.getD_some, List.dropLast_singleton, Entries.descend,
    update_of_new h, Option.map_some, Option.bind_eq_bind, Option.bind_some]
  rfl

theorem add_new {name key : String} {done inner : Entries} (hn : name ∉ done.map Prod.fst)
    (hk : key ∉ inner.map Prod.fst) (v : Value) :
    Reading.add ⟨done ++ [(name, .table .header inner)], [name]⟩ [key] v =
      some ⟨done ++ [(name, .table .header (inner ++ [(key, .value v)]))], [name]⟩ := by
  have added : inner.addDotted [] key v .header = some (inner ++ [(key, .value v)]) := by
    simp only [Entries.addDotted, Entries.descend, List.isEmpty_nil, Bool.true_or, if_true,
      Entries.add, update_of_new hk, Option.map_some]
  rw [Reading.add]
  simp only [Entries.descend, update_of_last hn, List.dropLast_singleton, List.getLast?_singleton,
    Option.getD_some, added]
  rfl

/-! ## Lines -/

/-- Whether a value that is written is one that can be read. -/
def Plain.Fits : Plain → Prop
  | .text _ => True
  | .integer n => (n : Int) < integerBound

/-- An entry written on a line of its own. -/
def writtenEntry (entry : String × Plain) : List Char :=
  entry.1.toList ++ [' ', '=', ' '] ++ entry.2.written ++ ['\n']

theorem head_written (v : Plain) :
    ∃ c cs, v.written = c :: cs ∧ c ≠ '[' ∧ c ≠ '\x7b' ∧ isSpace c = false := by
  cases v with
  | text s =>
    obtain ⟨c, cs, written, mark⟩ := head_writtenText s
    refine ⟨c, cs, written, ?_⟩
    rcases mark with rfl | rfl <;> decide
  | integer n =>
    obtain ⟨c, cs, written⟩ := List.exists_cons_of_ne_nil (Nat.toDigits_ne_nil (b := 10) (n := n))
    have digit : c.isDigit = true := Text.isDigit_of_mem_toDigits (written ▸ List.mem_cons_self)
    refine ⟨c, cs, written, ?_, ?_, ?_⟩
    · rintro rfl
      cases digit
    · rintro rfl
      cases digit
    · exact isSpace_of_isKeyChar (by simp [isKeyChar, Char.isAlphanum, digit])

theorem readScalar_written {v : Plain} (h : v.Fits) (rest : List Char) :
    readScalar (v.written ++ '\n' :: rest) = some (v.toValue, '\n' :: rest) := by
  cases v with
  | text s =>
    have read := readText_written s (show ('\n' :: rest).head? ≠ some '"' by simp) (by simp)
    obtain ⟨c, cs, written, mark⟩ := head_writtenText s
    rw [written, List.cons_append] at read
    rw [Plain.written, written, List.cons_append]
    rcases mark with rfl | rfl
    · rw [readScalar, read]
      rfl
    · rw [readScalar, read]
      rfl
  | integer n => exact readScalar_toDigits h rest

/-- A value is read up to the end of its line. -/
theorem readValue_written {v : Plain} (h : v.Fits) (depth : Nat) (rest : List Char) :
    readValue depth (skipSpace (' ' :: (v.written ++ '\n' :: rest))) =
      some (v.toValue, '\n' :: rest) := by
  have read := readScalar_written h rest
  obtain ⟨c, cs, written, list, table, space⟩ := head_written v
  rw [written, List.cons_append] at read ⊢
  have start : skipSpace (' ' :: c :: (cs ++ '\n' :: rest)) = c :: (cs ++ '\n' :: rest) :=
    skipSpace_cons space _
  rw [start]
  unfold readValue
  split
  · rename_i same
    exact absurd (List.cons.inj same).1 list
  · rename_i same
    exact absurd (List.cons.inj same).1 table
  · exact read

theorem skipLineEnd_line (rest : List Char) : skipLineEnd ('\n' :: rest) = some rest := rfl

theorem skipBlank_cons {c : Char}
    (h : c ≠ ' ' ∧ c ≠ '\t' ∧ c ≠ '\n' ∧ c ≠ '\r' ∧ c ≠ '#') (cs : List Char) :
    skipBlank false (c :: cs) = some (c :: cs) := by
  obtain ⟨space, tab, line, ret, comment⟩ := h
  rw [skipBlank.eq_3 _ _ _ (fun _ same _ => ret same)]
  simp [line, isSpace, space, tab, comment]

theorem skipBlank_line (cs : List Char) : skipBlank false ('\n' :: cs) = skipBlank false cs := by
  rw [skipBlank.eq_3 _ _ _ (fun _ same _ => absurd same (by decide))]
  rfl

/-- The line of a header opens its table. -/
theorem readLine_header {name : String} (bare : IsBare name) {r : Reading}
    (h : name ∉ r.entries.map Prod.fst) (rest : List Char) :
    r.readLine ('[' :: (name.toList ++ ']' :: '\n' :: rest)) =
      some (⟨r.entries ++ [(name, .table .header [])], [name]⟩, rest) := by
  have key : readKey depthLimit (name.toList ++ ']' :: '\n' :: rest) =
      some ([name], ']' :: '\n' :: rest) :=
    readKey_bare bare (by decide) (fun later same => by cases same) 78
  unfold Reading.readLine
  split
  · rename_i listed
    obtain ⟨c, others, same, kind⟩ := bare.cons
    rw [same, List.cons_append] at listed
    exact absurd (List.cons.inj (List.cons.inj listed).2).1 (ne_of_isKeyChar kind).2.2.2.2.2.1
  · rename_i same
    cases same
    rw [key, Option.bind_eq_bind, Option.bind_some]
    dsimp only
    rw [openTable_new h]
    rfl
  · rename_i other
    exact absurd rfl (other _)

/-- The line of an entry adds it to the table that is open. -/
theorem readLine_entry {name key : String} (bare : IsBare key) {v : Plain} (fits : v.Fits)
    {done inner : Entries} (hn : name ∉ done.map Prod.fst) (hk : key ∉ inner.map Prod.fst)
    (rest : List Char) :
    Reading.readLine ⟨done ++ [(name, .table .header inner)], [name]⟩
        (writtenEntry (key, v) ++ rest) =
      some (⟨done ++ [(name, .table .header (inner ++ [(key, .value v.toValue)]))], [name]⟩,
        rest) := by
  have line : writtenEntry (key, v) ++ rest =
      key.toList ++ ' ' :: '=' :: ' ' :: (v.written ++ '\n' :: rest) := by
    simp only [writtenEntry, List.append_assoc, List.cons_append, List.nil_append]
  have read : readKey depthLimit (key.toList ++ ' ' :: '=' :: ' ' :: (v.written ++ '\n' :: rest)) =
      some ([key], '=' :: ' ' :: (v.written ++ '\n' :: rest)) :=
    readKey_bare bare (by decide) (fun later same => by cases same) 78
  obtain ⟨c, others, same, kind⟩ := bare.cons
  rw [line]
  unfold Reading.readLine
  split
  · rename_i listed
    rw [same, List.cons_append] at listed
    exact absurd (List.cons.inj listed).1 (ne_of_isKeyChar kind).2.2.2.2.2.1
  · rename_i headed
    rw [same, List.cons_append] at headed
    exact absurd (List.cons.inj headed).1 (ne_of_isKeyChar kind).2.2.2.2.2.1
  · rw [read, Option.bind_eq_bind, Option.bind_some]
    dsimp only
    simp only [readValue_written fits, Option.bind_eq_bind, Option.bind_some, add_new hn hk,
      skipLineEnd_line]
    rfl

/-! ## Documents -/

/-- Tables that can be written out and read back: keys that need no quotes, none of them twice in a
table, and values that can be read. -/
structure Writable (tables : List (String × List (String × Plain))) : Prop where
  bare : ∀ t ∈ tables, IsBare t.1
  once : (tables.map Prod.fst).Nodup
  entriesBare : ∀ t ∈ tables, ∀ e ∈ t.2, IsBare e.1
  entriesOnce : ∀ t ∈ tables, (t.2.map Prod.fst).Nodup
  fits : ∀ t ∈ tables, ∀ e ∈ t.2, e.2.Fits

theorem Writable.tail {t : String × List (String × Plain)}
    {tables : List (String × List (String × Plain))} (h : Writable (t :: tables)) :
    Writable tables where
  bare t ht := h.bare t (List.mem_cons_of_mem _ ht)
  once := (List.nodup_cons.mp h.once).2
  entriesBare t ht := h.entriesBare t (List.mem_cons_of_mem _ ht)
  entriesOnce t ht := h.entriesOnce t (List.mem_cons_of_mem _ ht)
  fits t ht := h.fits t (List.mem_cons_of_mem _ ht)

/-- The first of the tables has a name that no later one has. -/
theorem Writable.head_ne {t : String × List (String × Plain)}
    {tables : List (String × List (String × Plain))} (h : Writable (t :: tables)) :
    ∀ later ∈ tables, later.1 ≠ t.1 := by
  intro later among same
  exact (List.nodup_cons.mp h.once).1 (same ▸ List.mem_map_of_mem among)

/-- Entries of plain values while a document is read. -/
def itemsOf (es : List (String × Plain)) : Entries := es.map fun e => (e.1, .value e.2.toValue)

/-- Tables while a document is read. -/
def tablesOf (tables : List (String × List (String × Plain))) : Entries :=
  tables.map fun t => (t.1, .table .header (itemsOf t.2))

/-- The values that tables stand for. -/
def valuesOf (tables : List (String × List (String × Plain))) : List (String × Value) :=
  tables.map fun t => (t.1, .table (t.2.map fun e => (e.1, e.2.toValue)))

theorem toValues_itemsOf (es : List (String × Plain)) :
    toValues (itemsOf es) = es.map fun e => (e.1, e.2.toValue) := by
  induction es with
  | nil => rfl
  | cons e es ih =>
    rw [itemsOf, List.map_cons] at *
    rw [toValues, ih, Item.toValue, List.map_cons]

theorem toValues_tablesOf (tables : List (String × List (String × Plain))) :
    toValues (tablesOf tables) = valuesOf tables := by
  induction tables with
  | nil => rfl
  | cons t tables ih =>
    rw [tablesOf, List.map_cons] at *
    rw [toValues, ih, Item.toValue, toValues_itemsOf, valuesOf, valuesOf, List.map_cons]

theorem readLines_line {r r' : Reading} {line rest : List Char} {fuel : Nat}
    (start : skipBlank false (line ++ rest) = some (line ++ rest)) (nonempty : line ≠ [])
    (read : r.readLine (line ++ rest) = some (r', rest)) :
    Reading.readLines (fuel + 1) r (line ++ rest) = Reading.readLines fuel r' rest := by
  rw [Reading.readLines, start, Option.bind_eq_bind, Option.bind_some]
  split
  · rename_i nothing
    exact absurd (List.append_eq_nil_iff.mp nothing).1 nonempty
  · rw [read]
    rfl

/-- Nothing blank comes before an entry. -/
theorem skipBlank_entry {e : String × Plain} (bare : IsBare e.1) (rest : List Char) :
    skipBlank false (writtenEntry e ++ rest) = some (writtenEntry e ++ rest) := by
  obtain ⟨c, others, same, kind⟩ := bare.cons
  obtain ⟨space, tab, line, ret, comment, _⟩ := ne_of_isKeyChar kind
  rw [writtenEntry, same]
  exact skipBlank_cons ⟨space, tab, line, ret, comment⟩ _

/-- The lines of entries add them to the table that is open. -/
theorem readLines_entries {name : String} {done : Entries} (hn : name ∉ done.map Prod.fst)
    {es : List (String × Plain)} (bare : ∀ e ∈ es, IsBare e.1) (fits : ∀ e ∈ es, e.2.Fits)
    {before : List (String × Plain)} (once : ((before ++ es).map Prod.fst).Nodup) (fuel : Nat)
    (rest : List Char) :
    Reading.readLines (fuel + es.length)
        ⟨done ++ [(name, .table .header (itemsOf before))], [name]⟩
        (es.flatMap writtenEntry ++ rest) =
      Reading.readLines fuel ⟨done ++ [(name, .table .header (itemsOf (before ++ es)))], [name]⟩
        rest := by
  induction es generalizing before with
  | nil => rw [List.append_nil]; rfl
  | cons e es ih =>
    obtain ⟨bareHere, bareLater⟩ := List.forall_mem_cons.mp bare
    obtain ⟨fitsHere, fitsLater⟩ := List.forall_mem_cons.mp fits
    have fresh : e.1 ∉ (itemsOf before).map Prod.fst := by
      rw [itemsOf, List.map_map]
      intro among
      rw [List.map_append, List.map_cons] at once
      exact List.nodup_append.mp once |>.2.2 _ among _ List.mem_cons_self rfl
    have nonempty : writtenEntry e ≠ [] := by simp [writtenEntry]
    have grown : itemsOf before ++ [(e.1, .value e.2.toValue)] = itemsOf (before ++ [e]) := by
      rw [itemsOf, itemsOf, List.map_append]
      rfl
    have read := readLine_entry bareHere fitsHere hn fresh (es.flatMap writtenEntry ++ rest)
    rw [grown] at read
    have onceLater : ((before ++ [e] ++ es).map Prod.fst).Nodup := by
      rwa [List.append_assoc, List.singleton_append]
    rw [List.flatMap_cons, List.append_assoc, List.length_cons, ← Nat.add_assoc,
      readLines_line (skipBlank_entry bareHere _) nonempty read,
      ih bareLater fitsLater onceLater, List.append_assoc, List.singleton_append]

theorem writtenTable_eq (name : String) (es : List (String × Plain)) :
    writtenTable name es = '[' :: (name.toList ++ ']' :: '\n' :: es.flatMap writtenEntry) := by
  change '[' :: (name.toList ++ [']', '\n']) ++ es.flatMap writtenEntry = _
  simp only [List.cons_append, List.append_assoc, List.nil_append]

/-- The lines of a table open it and fill it. -/
theorem readLines_table {name : String} {es : List (String × Plain)} (bare : IsBare name)
    (entriesBare : ∀ e ∈ es, IsBare e.1) (fits : ∀ e ∈ es, e.2.Fits)
    (once : (es.map Prod.fst).Nodup) {r : Reading} (fresh : name ∉ r.entries.map Prod.fst)
    (fuel : Nat) (rest : List Char) :
    Reading.readLines (fuel + es.length + 1) r (writtenTable name es ++ rest) =
      Reading.readLines fuel ⟨r.entries ++ [(name, .table .header (itemsOf es))], [name]⟩ rest := by
  have split : writtenTable name es ++ rest =
      ('[' :: (name.toList ++ [']', '\n'])) ++ (es.flatMap writtenEntry ++ rest) := by
    simp only [writtenTable_eq, List.cons_append, List.append_assoc, List.nil_append]
  have start (after : List Char) :
      skipBlank false (('[' :: (name.toList ++ [']', '\n'])) ++ after) =
        some (('[' :: (name.toList ++ [']', '\n'])) ++ after) := skipBlank_cons (by decide) _
  have read : r.readLine (('[' :: (name.toList ++ [']', '\n'])) ++
      (es.flatMap writtenEntry ++ rest)) =
        some (⟨r.entries ++ [(name, .table .header [])], [name]⟩,
          es.flatMap writtenEntry ++ rest) := by
    rw [← readLine_header bare fresh]
    simp only [List.cons_append, List.append_assoc, List.nil_append]
  rw [split, readLines_line (start _) (List.cons_ne_nil _ _) read]
  have onceEntries : (([] ++ es).map Prod.fst).Nodup := once
  exact readLines_entries fresh entriesBare fits onceEntries fuel rest

theorem readLines_blank (fuel : Nat) (r : Reading) (cs : List Char) :
    Reading.readLines (fuel + 1) r ('\n' :: cs) = Reading.readLines (fuel + 1) r cs := by
  rw [Reading.readLines, Reading.readLines, skipBlank_line]

/-- How many lines tables take, empty ones apart. -/
def lineCount (tables : List (String × List (String × Plain))) : Nat :=
  (tables.map fun t => t.2.length + 1).sum

/-- The lines of tables add them to those read before. -/
theorem readLines_tables {tables : List (String × List (String × Plain))} (h : Writable tables)
    {trailing : List Char} (blank : skipBlank false trailing = some []) (fuel : Nat) {r : Reading}
    (fresh : ∀ t ∈ tables, t.1 ∉ r.entries.map Prod.fst) :
    (Reading.readLines (fuel + lineCount tables + 1) r (writtenTables tables ++ trailing)).map
      Reading.entries = some (r.entries ++ tablesOf tables) := by
  induction tables generalizing r with
  | nil =>
    rw [writtenTables, List.nil_append, Reading.readLines, blank]
    simp [tablesOf]
  | cons t tables ih =>
    obtain ⟨name, es⟩ := t
    have read (after : List Char) := readLines_table (h.bare _ List.mem_cons_self)
      (h.entriesBare _ List.mem_cons_self) (h.fits _ List.mem_cons_self)
      (h.entriesOnce _ List.mem_cons_self) (fresh _ List.mem_cons_self)
      (fuel + lineCount tables + 1) after
    have count : fuel + lineCount ((name, es) :: tables) + 1 =
        fuel + lineCount tables + 1 + es.length + 1 := by
      simp only [lineCount, List.map_cons, List.sum_cons]
      omega
    have freshLater : ∀ t ∈ tables,
        t.1 ∉ (r.entries ++ [(name, Item.table .header (itemsOf es))]).map Prod.fst := by
      intro t ht
      rw [List.map_append, List.mem_append, not_or]
      exact ⟨fresh t (List.mem_cons_of_mem _ ht), by simpa using h.head_ne t ht⟩
    have rest := ih h.tail (r := ⟨_, [name]⟩) freshLater
    have whole : r.entries ++ [(name, .table .header (itemsOf es))] ++ tablesOf tables =
        r.entries ++ tablesOf ((name, es) :: tables) := by
      simp only [tablesOf, List.map_cons, List.append_assoc, List.singleton_append]
    rw [whole] at rest
    rw [count, ← rest]
    cases tables with
    | nil => simp only [writtenTables, read, List.nil_append]
    | cons t' tables =>
      rw [writtenTables, List.append_assoc, List.cons_append, read, readLines_blank]

theorem lineCount_le (tables : List (String × List (String × Plain))) :
    lineCount tables ≤ (writtenTables tables).length := by
  have entries (es : List (String × Plain)) : es.length ≤ (es.flatMap writtenEntry).length := by
    induction es with
    | nil => exact Nat.le_refl 0
    | cons e es ih =>
      simp only [List.flatMap_cons, List.length_append, List.length_cons, writtenEntry]
      omega
  have table (name : String) (es : List (String × Plain)) :
      es.length + 1 ≤ (writtenTable name es).length := by
    have := entries es
    simp only [writtenTable_eq, List.length_cons, List.length_append]
    omega
  induction tables using writtenTables.induct with
  | case1 => exact Nat.le_refl 0
  | case2 name es =>
    simpa [lineCount, writtenTables] using table name es
  | case3 name es t rest ih =>
    have := table name es
    simp only [lineCount, List.map_cons, List.sum_cons, writtenTables, List.length_append,
      List.length_cons] at ih ⊢
    omega

theorem head_writtenTables (tables : List (String × List (String × Plain))) :
    writtenTables tables = [] ∨ (writtenTables tables).head? = some '[' := by
  cases tables using writtenTables.fun_cases with
  | case1 => exact .inl (by rw [writtenTables])
  | case2 name es => exact .inr (by rw [writtenTables, writtenTable_eq]; rfl)
  | case3 name es t rest => exact .inr (by rw [writtenTables, writtenTable_eq]; rfl)

/-- A document of tables does not start with a byte order mark. -/
theorem head_ne_mark (tables : List (String × List (String × Plain))) {trailing : List Char}
    (blank : skipBlank false trailing = some []) :
    (writtenTables tables ++ trailing).head? ≠ some '\uFEFF' := by
  intro mark
  rcases head_writtenTables tables with nothing | bracket
  · rw [nothing, List.nil_append] at mark
    cases trailing with
    | nil => cases mark
    | cons c cs =>
      obtain rfl : c = '\uFEFF' := Option.some.inj mark
      rw [skipBlank_cons (by decide)] at blank
      cases blank
  · rw [List.head?_append, bracket] at mark
    cases mark

/-- Tables are read back from the document they are written in, whatever blank comes after them. -/
theorem read_pretty {tables : List (String × List (String × Plain))} (h : Writable tables)
    {trailing : String} (blank : skipBlank false trailing.toList = some []) :
    read (pretty tables ++ trailing) = some (valuesOf tables) := by
  have text : (pretty tables ++ trailing).toList = writtenTables tables ++ trailing.toList := by
    rw [String.toList_append, pretty, String.toList_ofList]
  have long := lineCount_le tables
  obtain ⟨fuel, enough⟩ := Nat.exists_eq_add_of_le' (Nat.le_trans long
    (Nat.le_add_right _ trailing.toList.length))
  have lines := readLines_tables h blank fuel (r := ⟨[], []⟩) (fun t _ => by simp)
  have unmarked := head_ne_mark tables blank
  have whole : (if (writtenTables tables ++ trailing.toList).head? == some '\uFEFF' then
      (writtenTables tables ++ trailing.toList).drop 1
      else writtenTables tables ++ trailing.toList) = writtenTables tables ++ trailing.toList :=
    if_neg (by simpa using unmarked)
  rw [read, text, whole, List.length_append, enough, ← toValues_tablesOf,
    ← List.nil_append (tablesOf tables)]
  obtain ⟨r, done, entries⟩ := Option.map_eq_some_iff.mp lines
  rw [done, Option.map_some, entries]

end ApiReference.Toml
