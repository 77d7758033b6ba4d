import ApiReference.Proofs.Bindings.Doc
import ApiReference.Proofs.Bindings.Source
import ApiReference.Proofs.Text.Words

/-!
Documentation comments as layouts of prose. Words are put on rows from the left, each as full as the
width allows (`fill_rows`), so a comment has the words of its text, no line of several words is
wider than eighty bytes, and no line has room for the word after it (`comment_laidOut`).
-/

namespace ApiReference.Doc

/-! ## Rows of words -/

/-- A row of words as one text, with a space between any two. -/
def joined (row : List (List Char)) : List Char := [' '].intercalate row

theorem joined_singleton (word : List Char) : joined [word] = word := List.intercalate_singleton

theorem joined_cons_cons (word next : List Char) (rest : List (List Char)) :
    joined (word :: next :: rest) = word ++ ' ' :: joined (next :: rest) := by
  simp [joined, List.intercalate_cons_cons]

theorem joined_concat {row : List (List Char)} (some : row ≠ []) (word : List Char) :
    joined (row ++ [word]) = joined row ++ ' ' :: word := by
  induction row with
  | nil => exact absurd rfl some
  | cons first rest ih =>
    cases rest with
    | nil => rw [List.singleton_append, joined_cons_cons, joined_singleton, joined_singleton]
    | cons next rest =>
      have later := ih (List.cons_ne_nil next rest)
      rw [List.cons_append] at later
      rw [List.cons_append, List.cons_append, joined_cons_cons, later, joined_cons_cons]
      simp

theorem joined_ne_nil {row : List (List Char)} (some : row ≠ []) (visible : ∀ word ∈ row, word ≠ []) :
    joined row ≠ [] := by
  obtain ⟨first, rest, rfl⟩ := List.exists_cons_of_ne_nil some
  have shown := visible first List.mem_cons_self
  cases rest with
  | nil => rwa [joined_singleton]
  | cons next rest =>
    rw [joined_cons_cons]
    simp

theorem byteLength_cons (c : Char) (cs : List Char) :
    byteLength (c :: cs) = c.utf8Size + byteLength cs := rfl

theorem utf8Size_space : ' '.utf8Size = 1 := rfl

theorem byteLength_append (cs ds : List Char) :
    byteLength (cs ++ ds) = byteLength cs + byteLength ds := by
  induction cs with
  | nil => simp [byteLength]
  | cons c cs ih =>
    rw [List.cons_append, byteLength_cons, byteLength_cons, ih]
    omega

theorem byteLength_pos {cs : List Char} (some : cs ≠ []) : 0 < byteLength cs := by
  obtain ⟨c, rest, rfl⟩ := List.exists_cons_of_ne_nil some
  have first := c.utf8Size_pos
  rw [byteLength_cons]
  omega

/-- Words and the spaces between them have a byte each at least. -/
theorem le_byteLength_joined {row : List (List Char)} (visible : ∀ word ∈ row, word ≠ []) :
    2 * row.length ≤ byteLength (joined row) + 1 := by
  induction row with
  | nil => simp
  | cons first rest ih =>
    obtain ⟨shown, later⟩ := List.forall_mem_cons.mp visible
    have first_pos := byteLength_pos shown
    cases rest with
    | nil =>
      rw [joined_singleton, List.length_singleton]
      omega
    | cons next rest =>
      have rest_le := ih later
      rw [joined_cons_cons, byteLength_append, byteLength_cons, utf8Size_space, List.length_cons]
      omega

theorem utf8ByteSize_ofList (cs : List Char) : (String.ofList cs).utf8ByteSize = byteLength cs := by
  induction cs with
  | nil => rfl
  | cons c cs ih =>
    rw [byteLength_cons, ← ih]
    simp [String.utf8ByteSize_ofList]

/-- Rows that hold words in their order: a row of several words fits the width, and none has room
for the first word of the next. -/
structure Rows (width : Nat) (words : List (List Char)) (rows : List (List (List Char))) : Prop where
  words : rows.flatten = words
  nonempty : ∀ row ∈ rows, row ≠ []
  fits : ∀ row ∈ rows, 2 ≤ row.length → byteLength (joined row) ≤ width
  full : rows.IsChain fun row next =>
    ∀ word ∈ next.head?, width < byteLength (joined row) + 1 + byteLength word

theorem Rows.single {width : Nat} {row : List (List Char)} (begun : row ≠ [])
    (fits : 2 ≤ row.length → byteLength (joined row) ≤ width) : Rows width row [row] := by
  constructor
  · simp
  · simpa using begun
  · simpa using fits
  · simp

/-- A row goes before others that start with a word too wide for it. -/
theorem Rows.cons {width : Nat} {row words : List (List Char)} {word : List Char}
    {more : List (List Char)} {rest : List (List (List Char))} (begun : row ≠ [])
    (fits : 2 ≤ row.length → byteLength (joined row) ≤ width)
    (wide : width < byteLength (joined row) + 1 + byteLength word)
    (h : Rows width words ((word :: more) :: rest)) :
    Rows width (row ++ words) (row :: (word :: more) :: rest) := by
  constructor
  · rw [List.flatten_cons, h.words]
  · exact List.forall_mem_cons.mpr ⟨begun, h.nonempty⟩
  · exact List.forall_mem_cons.mpr ⟨fits, h.fits⟩
  · rw [List.isChain_cons_cons]
    exact ⟨by simpa using wide, h.full⟩

/-- Filling goes on with the row begun, and leaves rows of which the first starts with that. -/
theorem fill_rows_from (width : Nat) {row words : List (List Char)} (begun : row ≠ [])
    (visible : ∀ word ∈ row, word ≠ []) (each : ∀ word ∈ words, word ≠ [])
    (fits : 2 ≤ row.length → byteLength (joined row) ≤ width) :
    ∃ more rest, fill width (joined row) words = ((row ++ more) :: rest).map joined ∧
      Rows width (row ++ words) ((row ++ more) :: rest) := by
  induction words generalizing row with
  | nil =>
    refine ⟨[], [], by simp [fill], ?_⟩
    rw [List.append_nil]
    exact Rows.single begun fits
  | cons word words ih =>
    obtain ⟨first, later⟩ := List.forall_mem_cons.mp each
    have shown := joined_ne_nil begun visible
    rw [fill, if_neg (by simpa using shown)]
    split
    · rename_i wide
      have alone : ∀ w ∈ [word], w ≠ [] := by simpa using first
      obtain ⟨more, rest, lines, rows⟩ := ih (List.cons_ne_nil word []) alone later (by simp)
      rw [joined_singleton] at lines
      refine ⟨[], (word :: more) :: rest, ?_, ?_⟩
      · rw [lines, List.append_nil]
        rfl
      · rw [List.append_nil]
        exact Rows.cons begun fits wide rows
    · rename_i narrow
      have grown : byteLength (joined (row ++ [word])) ≤ width := by
        rw [joined_concat begun, byteLength_append, byteLength_cons, utf8Size_space]
        omega
      have visible' : ∀ w ∈ row ++ [word], w ≠ [] := by
        intro w hw
        rcases List.mem_append.mp hw with old | new
        · exact visible w old
        · rwa [List.mem_singleton.mp new]
      obtain ⟨more, rest, lines, rows⟩ := ih (by simp) visible' later (fun _ => grown)
      rw [joined_concat begun] at lines
      refine ⟨word :: more, rest, ?_, ?_⟩
      · simpa using lines
      · simpa using rows

/-- Filling puts words on rows that are as full as the width allows. -/
theorem fill_rows (width : Nat) {words : List (List Char)} (some : words ≠ [])
    (each : ∀ word ∈ words, word ≠ []) :
    ∃ rows, fill width [] words = rows.map joined ∧ Rows width words rows := by
  obtain ⟨word, words, rfl⟩ := List.exists_cons_of_ne_nil some
  obtain ⟨first, later⟩ := List.forall_mem_cons.mp each
  obtain ⟨more, rest, lines, rows⟩ := fill_rows_from width (List.cons_ne_nil word [])
    (by simpa using first) later (by simp)
  rw [joined_singleton] at lines
  exact ⟨_, lines, rows⟩

/-! ## Comment lines -/

/-- An indentation of spaces. -/
def spaces (n : Nat) : String := String.ofList (List.replicate n ' ')

/-- What an empty comment line holds: the indentation and the marks of a comment. -/
def marks (n : Nat) : String := spaces n ++ "///"

/-- The words of a comment line behind its indentation and its marks. -/
def wordsBehind (n : Nat) (line : String) : List (List Char) :=
  Text.words (line.toList.drop (n + 3))

/-- Whether lines are a comment for one line of prose: they start with the marks and hold its words
in their order, an empty one only if the line is blank. A line with several words has at most eighty
bytes, and no line leaves room for the word after it. -/
structure LaidOut (n : Nat) (prose : List Char) (lines : List String) : Prop where
  marked : ∀ line ∈ lines, (marks n).toList <+: line.toList
  words : lines.flatMap (wordsBehind n) = Text.words prose
  bare : (∀ c ∈ prose, Text.isBlank c = true) → lines = [marks n]
  written : (∃ c ∈ prose, Text.isBlank c = false) → ∀ line ∈ lines, wordsBehind n line ≠ []
  fits : ∀ line ∈ lines, 2 ≤ (wordsBehind n line).length → line.utf8ByteSize ≤ 80
  full : lines.IsChain fun line next =>
    ∀ word ∈ (wordsBehind n next).head?, 80 < (line ++ " " ++ String.ofList word).utf8ByteSize

theorem byteLength_spaces (n : Nat) : byteLength (spaces n).toList = n := by
  rw [spaces, String.toList_ofList]
  induction n with
  | zero => rfl
  | succ n ih =>
    rw [List.replicate_succ, byteLength_cons, ih]
    exact Nat.add_comm 1 n

/-- The line for a row of words. -/
def rowLine (n : Nat) (row : List (List Char)) : String :=
  String.ofList ((spaces n).toList ++ "/// ".toList ++ joined row)

theorem byteLength_start (n : Nat) : byteLength ((spaces n).toList ++ "/// ".toList) = n + 4 := by
  have signs : byteLength "/// ".toList = 4 := by decide
  rw [byteLength_append, byteLength_spaces, signs]

theorem utf8ByteSize_rowLine (n : Nat) (row : List (List Char)) :
    (rowLine n row).utf8ByteSize = n + 4 + byteLength (joined row) := by
  rw [rowLine, utf8ByteSize_ofList, byteLength_append, byteLength_start]

theorem wordsBehind_marks (n : Nat) : wordsBehind n (marks n) = [] := by
  have none : (marks n).toList.drop (n + 3) = [] := by
    apply List.drop_eq_nil_of_le
    simp [marks, spaces]
  rw [wordsBehind, none]
  rfl

theorem wordsBehind_rowLine (n : Nat) {row : List (List Char)} {prose : List Char}
    (among : ∀ word ∈ row, word ∈ Text.words prose) : wordsBehind n (rowLine n row) = row := by
  have behind : (rowLine n row).toList.drop (n + 3) = [] ++ ' ' :: joined row := by
    have start : (spaces n).toList.length = n := by simp [spaces]
    rw [rowLine, String.toList_ofList, List.append_assoc, List.drop_append, start]
    simp [start]
  have single : row.flatMap Text.words = row.flatMap fun word => [word] := by
    apply List.flatMap_congr
    intro word hw
    have isWord := among word hw
    exact Text.words_of_forall (Text.ne_nil_of_mem_words isWord) (Text.isBlank_of_mem_words isWord)
  rw [wordsBehind, behind, Text.words_append_cons rfl, joined, Text.words_intercalate rfl, single,
    List.flatMap_singleton']
  rfl

theorem laidOut_blank {n : Nat} {prose : List Char} (blank : ∀ c ∈ prose, Text.isBlank c = true) :
    LaidOut n prose [marks n] := by
  constructor
  · simp
  · simp [wordsBehind_marks, Text.words_eq_nil_iff.mpr blank]
  · intro _
    rfl
  · rintro ⟨c, hc, visible⟩
    rw [blank c hc] at visible
    cases visible
  · simp [wordsBehind_marks]
  · simp

/-- Full rows make a comment, as the width is what eighty bytes leave behind the indentation and the
marks. Where they leave nothing it is one byte, which no two words fit. -/
theorem laidOut_rows {n : Nat} {prose : List Char} {rows : List (List (List Char))}
    (visible : ∃ c ∈ prose, Text.isBlank c = false)
    (laid : Rows (max 1 (80 - (n + 4))) (Text.words prose) rows) :
    LaidOut n prose (rows.map (rowLine n)) := by
  have among : ∀ row ∈ rows, ∀ word ∈ row, word ∈ Text.words prose := by
    intro row hr word hw
    rw [← laid.words]
    exact List.mem_flatten.mpr ⟨row, hr, hw⟩
  have behind : ∀ row ∈ rows, wordsBehind n (rowLine n row) = row :=
    fun row hr => wordsBehind_rowLine n (among row hr)
  have shown : ∀ row ∈ rows, ∀ word ∈ row, word ≠ [] :=
    fun row hr word hw => Text.ne_nil_of_mem_words (among row hr word hw)
  constructor
  · intro line hl
    obtain ⟨row, _, rfl⟩ := List.mem_map.mp hl
    exact ⟨' ' :: joined row, by simp [rowLine, marks]⟩
  · rw [List.flatMap_map, ← laid.words, ← List.flatMap_id]
    exact List.flatMap_congr behind
  · intro blank
    obtain ⟨c, hc, shown⟩ := visible
    rw [blank c hc] at shown
    cases shown
  · intro _ line hl
    obtain ⟨row, hr, rfl⟩ := List.mem_map.mp hl
    rw [behind row hr]
    exact laid.nonempty row hr
  · intro line hl several
    obtain ⟨row, hr, rfl⟩ := List.mem_map.mp hl
    rw [behind row hr] at several
    have fits := laid.fits row hr several
    have long := le_byteLength_joined (shown row hr)
    rw [utf8ByteSize_rowLine]
    omega
  · rw [List.isChain_map]
    refine List.IsChain.imp_of_mem_imp (fun row next hr hn wide word starts => ?_) laid.full
    rw [behind next hn] at starts
    have beyond := wide word starts
    have row_pos : 0 < row.length := List.length_pos_iff.mpr (laid.nonempty row hr)
    have row_le := le_byteLength_joined (shown row hr)
    have word_pos := byteLength_pos (shown next hn word (List.mem_of_mem_head? starts))
    have space : (" " : String).utf8ByteSize = 1 := rfl
    rw [String.utf8ByteSize_append, String.utf8ByteSize_append, space, utf8ByteSize_rowLine,
      utf8ByteSize_ofList]
    omega

theorem laidOut_commentLine (n : Nat) (prose : List Char) :
    LaidOut n prose ((commentLine (spaces n).toList prose).map String.ofList) := by
  by_cases blank : ∀ c ∈ prose, Text.isBlank c = true
  · have empty : (commentLine (spaces n).toList prose).map String.ofList = [marks n] := by
      simp [commentLine, Text.words_eq_nil_iff.mpr blank, marks]
    rw [empty]
    exact laidOut_blank blank
  · have some : Text.words prose ≠ [] := fun none => blank (Text.words_eq_nil_iff.mp none)
    obtain ⟨rows, filled, laid⟩ := fill_rows (max 1 (80 - (n + 4))) some
      fun _ h => Text.ne_nil_of_mem_words h
    have lines : (commentLine (spaces n).toList prose).map String.ofList = rows.map (rowLine n) := by
      obtain ⟨word, words, shape⟩ := List.exists_cons_of_ne_nil some
      rw [shape] at filled
      unfold commentLine
      dsimp only
      rw [byteLength_start, shape, wrapWidth]
      dsimp only
      rw [filled, List.map_map, List.map_map]
      rfl
    rw [lines]
    exact laidOut_rows (by simpa using blank) laid

/-! ## The comment for a text -/

theorem oneLine_comment (text : String) (n : Nat) :
    ∀ line ∈ comment text (spaces n), Bindings.OneLine line ∧ '\r' ∉ line.toList := by
  intro line hl
  obtain ⟨behind, whole, plain⟩ := isDocumentation_of_mem_comment hl
  have absent {c : Char} (blank : Text.isBlank c = true) (other : c ≠ ' ') (sign : c ≠ '/') :
      c ∉ line.toList := by
    intro among
    rw [whole] at among
    rcases List.mem_append.mp among with start | later
    · have signs : (n ≠ 0 ∧ c = ' ') ∨ c = '/' := by simpa [spaces] using start
      rcases signs with ⟨-, rfl⟩ | rfl
      · exact other rfl
      · exact sign rfl
    · rcases plain c later with rfl | visible
      · exact other rfl
      · rw [blank] at visible
        cases visible
  exact ⟨absent rfl (by decide) (by decide), absent rfl (by decide) (by decide)⟩

theorem lines_comment (text : String) (n : Nat) :
    (Text.lines (sourceText (comment text (spaces n))).toList).map String.ofList =
      comment text (spaces n) := by
  have each := oneLine_comment text n
  have kept : ((comment text (spaces n)).map String.toList).map Text.withoutReturn =
      (comment text (spaces n)).map String.toList := by
    rw [List.map_map]
    apply List.map_congr_left
    intro line hl
    exact Text.withoutReturn_of_not_mem (each line hl).2
  rw [Text.lines_of_split (Bindings.split_sourceText fun line hl => (each line hl).1), kept]
  simp [Function.comp_def]

/-- A comment is what the lines of the trimmed text make, one after the other. -/
theorem comment_eq (text : String) (n : Nat) :
    comment text (spaces n) = (Text.lines (Text.trim text.toList)).flatMap fun prose =>
      (commentLine (spaces n).toList prose).map String.ofList := by
  have lines : commentLines text.toList (spaces n).toList =
      (Text.lines (Text.trim text.toList)).flatMap (commentLine (spaces n).toList) := by
    unfold commentLines
    dsimp only
    split
    · rename_i empty
      rw [List.isEmpty_iff] at empty
      rw [empty]
      rfl
    · rfl
  rw [comment, lines, List.map_flatMap]

/-- **The layout of a comment.** A comment indented by spaces is made of a stretch of lines for each
line of the trimmed text, in their order, which hold the words of that line and are as full as eighty
bytes allow. A blank line of the text has the empty comment line for its stretch, and no other has an
empty comment line in it. -/
theorem comment_laidOut (text : String) (n : Nat) :
    ∃ stretches : List (List String),
      (Text.lines (sourceText (comment text (spaces n))).toList).map String.ofList =
          stretches.flatten ∧
        List.Forall₂ (LaidOut n) (Text.lines (Text.trim text.toList)) stretches ∧
        stretches.flatten.flatMap (wordsBehind n) = Text.words text.toList := by
  have laid : List.Forall₂ (LaidOut n) (Text.lines (Text.trim text.toList))
      ((Text.lines (Text.trim text.toList)).map fun prose =>
        (commentLine (spaces n).toList prose).map String.ofList) := by
    rw [List.forall₂_map_right_iff, List.forall₂_same]
    exact fun prose _ => laidOut_commentLine n prose
  refine ⟨_, ?_, laid, ?_⟩
  · rw [lines_comment, comment_eq, List.flatMap_def]
  · calc _ = (Text.lines (Text.trim text.toList)).flatMap fun prose =>
          ((commentLine (spaces n).toList prose).map String.ofList).flatMap (wordsBehind n) := by
          rw [← List.flatMap_def, List.flatMap_assoc]
      _ = (Text.lines (Text.trim text.toList)).flatMap Text.words :=
          List.flatMap_congr fun prose _ => (laidOut_commentLine n prose).words
      _ = Text.words text.toList := by
          rw [Text.flatMap_words_lines, Text.words_trim]

end ApiReference.Doc
