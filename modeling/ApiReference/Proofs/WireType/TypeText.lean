import ApiReference.Proofs.Outcome
import ApiReference.Proofs.Text.Case
import ApiReference.Proofs.Text.Separator
import ApiReference.Proofs.WireType.Within
import ApiReference.WireType.Word

/-!
Type texts as reference pages write them: any number of `array of `, then words with ` or ` between
them, each a word for a scalar in any letter case or the name of a data type. Such a text is read as
what it says (`ofPageText_typeText`): the arrays are counted, every word is an alternative, and no
word is taken for another.
-/

namespace ApiReference

/-! ## Letter case and white space -/

theorem Text.isBlank_toLower (c : Char) : Text.isBlank c.toLower = Text.isBlank c := by
  have ascii : ∀ n < 0x80,
      Text.isBlank (Char.ofNat n).toLower = Text.isBlank (Char.ofNat n) := by decide +kernel
  by_cases small : c.toNat < 0x80
  · have same := ascii c.toNat small
    rwa [Char.ofNat_toNat] at same
  · rw [Text.toLower_of_not_capital (by omega)]

/-- Whether there is white space around a text does not depend on its letter case. -/
theorem Text.tight_map_toLower {cs : List Char} :
    Text.Tight (cs.map Char.toLower) ↔ Text.Tight cs := by
  simp [Text.tight_iff, Option.any_map, Text.isBlank_toLower]

namespace WireType

/-! ## Words -/

/-- The words for scalars. -/
inductive ScalarWord where
  | integer
  | int
  | int64
  | boolean
  | bool
  | truth
  | float
  | floatNumber
  | string
  deriving DecidableEq

/-- A word for a scalar in small letters. -/
def ScalarWord.spelling : ScalarWord → String
  | integer => "integer"
  | int => "int"
  | int64 => "int64"
  | boolean => "boolean"
  | bool => "bool"
  | truth => "true"
  | float => "float"
  | floatNumber => "float number"
  | string => "string"

/-- Whether the name of a field says that it holds an identifier. -/
def HoldsIdentifier (field : String) : Prop := field = "id" ∨ "_id".toList <:+: field.toList

instance (field : String) : Decidable (HoldsIdentifier field) :=
  inferInstanceAs (Decidable (_ ∨ _))

/-- The scalar that a word stands for in the row of a field. -/
def ScalarWord.kind (field : String) : ScalarWord → Scalar
  | integer => if HoldsIdentifier field then .int64 else .int
  | int => .int
  | int64 => .int64
  | boolean | bool | truth => .bool
  | float | floatNumber => .float
  | string => .string

/-- A word of a type text: one for a scalar, in any letter case, or the name of a data type, which
starts with a capital and is no word for a scalar and not `array`, in any letter case. -/
inductive TypeWord where
  | scalar (word : ScalarWord) (letters : String)
    (same : Text.equalIgnoringCase letters word.spelling = true)
  | name (letters : String) (capital : letters.toList.head?.any Char.isUpper = true)
    (alphanumeric : ∀ c ∈ letters.toList, Text.isAlphanumeric c = true)
    (noScalar : ∀ word : ScalarWord, Text.equalIgnoringCase letters word.spelling = false)
    (noArray : Text.equalIgnoringCase letters "array" = false)

namespace TypeWord

/-- The letters of a word. -/
def text : TypeWord → List Char
  | scalar _ letters _ => letters.toList
  | name letters _ _ _ _ => letters.toList

/-- What a word means in the row of a field. -/
def type (field : String) : TypeWord → WireType
  | scalar word _ _ => .scalar (word.kind field)
  | name letters _ _ _ _ => .named letters

end TypeWord

theorem isIdentifierName_iff {field : String} :
    isIdentifierName field = true ↔ HoldsIdentifier field := by
  rw [isIdentifierName, Bool.or_eq_true, beq_iff_eq, Text.occursIn_iff]
  rfl

theorem equalIgnoringCase_iff {letters word : String}
    (small : word.toList.map Char.toLower = word.toList) :
    Text.equalIgnoringCase letters word = true ↔ letters.toList.map Char.toLower = word.toList := by
  rw [Text.equalIgnoringCase, beq_iff_eq, small]

namespace ScalarWord

private theorem toLower_spelling (word : ScalarWord) :
    word.spelling.toList.map Char.toLower = word.spelling.toList := by
  cases word <;> decide

/-- The words for scalars are ASCII, without a `k` and without the star of emphasis. -/
private theorem plain_spelling (word : ScalarWord) :
    ∀ c ∈ word.spelling.toList, (c.toNat < 0x80 ∧ c ≠ 'k') ∧ c ≠ '*' := by
  have plain : word.spelling.toList.all
      (fun c => decide ((c.toNat < 0x80 ∧ c ≠ 'k') ∧ c ≠ '*')) = true := by
    cases word <;> decide
  simpa only [decide_eq_true_eq] using List.all_eq_true.mp plain

private theorem tight_spelling (word : ScalarWord) : Text.Tight word.spelling.toList := by
  rw [Text.tight_iff]
  cases word <;> decide

/-- No word for a scalar could be the start of an ` or `. -/
private theorem avoids_spelling (word : ScalarWord) :
    Text.Avoids unionWord word.spelling.toList := by
  cases word <;> simp [spelling, Text.Avoids, unionWord]

end ScalarWord

namespace TypeWord

private theorem map_toLower_text {word : ScalarWord} {letters : String}
    (same : Text.equalIgnoringCase letters word.spelling = true) :
    (scalar word letters same).text.map Char.toLower = word.spelling.toList :=
  (equalIgnoringCase_iff word.toLower_spelling).mp same

theorem tight (w : TypeWord) : Text.Tight w.text := by
  cases w with
  | scalar word letters same =>
    rw [← Text.tight_map_toLower, map_toLower_text]
    exact word.tight_spelling
  | name letters capital alphanumeric _ _ =>
    refine Text.tight_of_forall ?_ fun c hc => Text.isBlank_of_isAlphanumeric (alphanumeric c hc)
    intro empty
    rw [show letters.toList = [] from empty] at capital
    cases capital

theorem ne_star (w : TypeWord) : ∀ c ∈ w.text, c ≠ '*' := by
  rintro c hc rfl
  cases w with
  | scalar word letters same =>
    have letter := List.mem_map_of_mem (f := Char.toLower) hc
    rw [map_toLower_text] at letter
    exact (word.plain_spelling _ letter).2 (by decide)
  | name letters _ alphanumeric _ _ =>
    have other : Text.isAlphanumeric '*' = false := by decide +kernel
    rw [alphanumeric _ hc] at other
    cases other

theorem avoids (w : TypeWord) : Text.Avoids unionWord w.text := by
  cases w with
  | scalar word letters same =>
    refine Text.Avoids.of_map (f := Char.toLower) (by decide) ?_
    rw [map_toLower_text]
    exact word.avoids_spelling
  | name letters _ alphanumeric _ _ =>
    refine Text.avoids_of_forall fun c hc space => ?_
    have visible := Text.isBlank_of_isAlphanumeric (alphanumeric c hc)
    rw [← space] at visible
    cases visible

/-- What stands before the first space of a word is not `array`. -/
theorem takeWhile_ne_array (w : TypeWord) :
    (w.text.map Char.toLower).takeWhile (· != ' ') ≠ "array".toList := by
  cases w with
  | scalar word letters same =>
    rw [map_toLower_text]
    cases word <;> decide
  | name letters _ alphanumeric _ noArray =>
    have whole : ∀ d ∈ letters.toList.map Char.toLower, (d != ' ') = true := by
      intro d hd
      obtain ⟨c, hc, rfl⟩ := List.mem_map.mp hd
      have visible := Text.isBlank_of_isAlphanumeric (alphanumeric c hc)
      rw [← Text.isBlank_toLower] at visible
      rw [bne_iff_ne]
      intro space
      rw [space] at visible
      cases visible
    intro array
    rw [show (name letters _ alphanumeric _ noArray).text = letters.toList from rfl,
      List.takeWhile_eq_self_iff.mpr whole, ← equalIgnoringCase_iff (by decide), noArray] at array
    cases array

end TypeWord

/-! ## What words mean -/

theorem bareWord_of_tight {cs : List Char} (tight : Text.Tight cs) (noStar : ∀ c ∈ cs, c ≠ '*') :
    bareWord cs = cs := by
  have kept {xs : List Char} (noStar : ∀ c ∈ xs, c ≠ '*') : xs.dropWhile (· == '*') = xs := by
    cases xs with
    | nil => rfl
    | cons c rest => exact List.dropWhile_cons_of_neg (by simpa using noStar c List.mem_cons_self)
  unfold bareWord
  dsimp only
  rw [Text.trim_of_tight tight, kept noStar, kept (by simpa using noStar), List.reverse_reverse,
    Text.trim_of_tight tight]

/-- A word is read as what it means. -/
theorem ofPageWord_text (field : String) (w : TypeWord) :
    ofPageWord (some field) w.text = .ok (w.type field) := by
  unfold ofPageWord
  dsimp only
  rw [bareWord_of_tight w.tight w.ne_star]
  cases w with
  | scalar word letters same =>
    have small : Text.lowercase (String.ofList (TypeWord.scalar word letters same).text)
        = word.spelling := by
      rw [Text.lowercase_eq_iff fun c hc => (word.plain_spelling c hc).1, String.toList_ofList,
        TypeWord.map_toLower_text]
    have wide : (some field).any isIdentifierName = decide (HoldsIdentifier field) := by
      rw [Option.any_some, Bool.eq_iff_iff, isIdentifierName_iff, decide_eq_true_eq]
    rw [small, wide]
    cases word <;> simp [ScalarWord.spelling, TypeWord.type, ScalarWord.kind]
  | name letters capital alphanumeric noScalar noArray =>
    have isName : isName letters.toList = true := nameLike_of_capital capital alphanumeric
    have other {word : String} (plain : ∀ c ∈ word.toList, c.toNat < 0x80 ∧ c ≠ 'k')
        (small : word.toList.map Char.toLower = word.toList)
        (no : Text.equalIgnoringCase letters word = false) :
        Text.lowercase (String.ofList letters.toList) ≠ word := by
      intro same
      rw [Text.lowercase_eq_iff plain, String.toList_ofList, ← equalIgnoringCase_iff small, no]
        at same
      cases same
    have noWord (word : ScalarWord) :
        Text.lowercase (String.ofList letters.toList) ≠ word.spelling :=
      other (fun c hc => (word.plain_spelling c hc).1) word.toLower_spelling (noScalar word)
    have noBareArray : Text.lowercase (String.ofList letters.toList) ≠ "array" :=
      other (by simp) (by decide) noArray
    rw [show (TypeWord.name letters capital alphanumeric noScalar noArray).text = letters.toList
      from rfl]
    -- A name is no word of the table, so only the last line of the table is for it.
    split
    case h_1 same => exact absurd same (noWord .integer)
    case h_2 same => exact absurd same (noWord .int)
    case h_3 same => exact absurd same (noWord .int64)
    case h_4 same => exact absurd same (noWord .boolean)
    case h_5 same => exact absurd same (noWord .bool)
    case h_6 same => exact absurd same (noWord .truth)
    case h_7 same => exact absurd same (noWord .float)
    case h_8 same => exact absurd same (noWord .floatNumber)
    case h_9 same => exact absurd same (noWord .string)
    case h_10 same => exact absurd same noBareArray
    case h_11 => rw [if_pos isName, String.ofList_toList, TypeWord.type]

theorem unionOf_ok_iff {field : String} {words : List (List Char)} {t : WireType} :
    unionOf field words = .ok t ↔
      ∃ members, t = .union members ∧
        words.map (ofPageWord (some field)) = members.map .ok := by
  unfold unionOf
  constructor
  · intro h
    obtain ⟨members, read, h⟩ := of_bind_ok h
    cases h
    exact ⟨members, rfl, mapM_ok_iff.mp read⟩
  · rintro ⟨members, rfl, meant⟩
    rw [mapM_ok_iff.mpr meant]
    rfl

/-- Words are read as the alternatives that they mean. -/
theorem unionOf_text (field : String) (ws : List TypeWord) :
    unionOf field (ws.map TypeWord.text) = .ok (.union (ws.map (TypeWord.type field))) := by
  rw [unionOf_ok_iff]
  refine ⟨_, rfl, ?_⟩
  simp only [List.map_map, Function.comp_def, ofPageWord_text]

/-! ## Arrays -/

/-- One `array of `, in any letter case, with more white space after it. -/
structure ArrayOf where
  letters : List Char
  blanks : List Char
  same : letters.map Char.toLower = "array of ".toList
  blank : ∀ c ∈ blanks, Text.isBlank c = true

/-- The characters of an `array of `. -/
def ArrayOf.text (a : ArrayOf) : List Char := a.letters ++ a.blanks

/-- An `array of ` at the start of a text is taken off, with all white space after it. -/
theorem dropArrayOf?_text (a : ArrayOf) {rest : List Char} (tight : Text.Tight rest) :
    dropArrayOf? (a.text ++ rest) = some rest := by
  have nine : a.letters.length = 9 := by
    have length := congrArg List.length a.same
    rwa [List.length_map] at length
  have starts : (((a.text ++ rest).take 9).map Char.toLower == "array of ".toList) = true := by
    rw [ArrayOf.text, List.append_assoc, List.take_left' nine, a.same]
    rfl
  have left : (a.text ++ rest).drop 9 = a.blanks ++ rest := by
    rw [ArrayOf.text, List.append_assoc, List.drop_left' nine]
  rw [dropArrayOf?, if_pos starts, left, Text.trimStart, List.dropWhile_append_of_pos a.blank]
  exact congrArg some (Text.trimStart_of_tight tight)

/-- A text whose first word is not `array` starts with no `array of `. -/
theorem dropArrayOf?_eq_none {cs : List Char}
    (h : (cs.map Char.toLower).takeWhile (· != ' ') ≠ "array".toList) : dropArrayOf? cs = none := by
  unfold dropArrayOf?
  refine if_neg fun starts => h ?_
  rw [beq_iff_eq] at starts
  rw [← List.take_append_drop 9 cs, List.map_append, starts]
  rfl

theorem ArrayOf.tight_append (a : ArrayOf) {rest : List Char} (tight : Text.Tight rest) :
    Text.Tight (a.text ++ rest) := by
  obtain ⟨c, more, letters, first, _⟩ := List.map_eq_cons_iff.mp a.same
  obtain ⟨before, last, ends, visible⟩ := tight.last
  refine ⟨⟨c, more ++ a.blanks ++ rest, by simp [text, letters], ?_⟩,
    ⟨a.text ++ before, last, by simp [ends], visible⟩⟩
  rw [← Text.isBlank_toLower, first]
  rfl

theorem tight_arrays_append (as : List ArrayOf) {rest : List Char} (tight : Text.Tight rest) :
    Text.Tight (as.flatMap ArrayOf.text ++ rest) := by
  induction as with
  | nil => exact tight
  | cons a as ih =>
    rw [List.flatMap_cons, List.append_assoc]
    exact a.tight_append ih

/-- Every `array of ` at the start of a text is counted. -/
theorem stripArrays_append (as : List ArrayOf) {rest : List Char} (tight : Text.Tight rest)
    (last : dropArrayOf? rest = none) :
    stripArrays (as.flatMap ArrayOf.text ++ rest) = (as.length, rest) := by
  induction as with
  | nil => exact stripArrays_of_none last
  | cons a as ih =>
    have next := dropArrayOf?_text a (tight_arrays_append as tight)
    rw [List.flatMap_cons, List.append_assoc, stripArrays_of_some next, ih]
    rfl

/-! ## Whole texts -/

/-- A type text: any number of `array of `, then words with ` or ` between them. -/
structure TypeText where
  arrays : List ArrayOf
  first : TypeWord
  others : List TypeWord

namespace TypeText

/-- The words of a type text, in order. -/
def words (t : TypeText) : List TypeWord := t.first :: t.others

/-- The words with ` or ` between them. -/
def alternatives (t : TypeText) : List Char := " or ".toList.intercalate (t.words.map TypeWord.text)

/-- The characters of a type text. -/
def text (t : TypeText) : List Char := t.arrays.flatMap ArrayOf.text ++ t.alternatives

/-- What the words of a type text mean: a single word what it means, several the union of what each
of them means. -/
def element (field : String) (t : TypeText) : WireType :=
  match t.others with
  | [] => t.first.type field
  | _ :: _ => .union (t.words.map (TypeWord.type field))

/-- What a type text means in the row of a field: one array for each `array of `. -/
def type (field : String) (t : TypeText) : WireType :=
  WireType.arrays t.arrays.length (t.element field)

private theorem takeWhile_append_cons {p : Char → Bool} {c : Char} (stop : p c = false)
    (cs ds : List Char) : (cs ++ c :: ds).takeWhile p = cs.takeWhile p := by
  induction cs with
  | nil => simp [stop]
  | cons d cs ih => simp [List.takeWhile_cons, ih]

private theorem dropArrayOf?_alternatives (t : TypeText) : dropArrayOf? t.alternatives = none := by
  refine dropArrayOf?_eq_none ?_
  unfold alternatives words
  rw [List.map_cons]
  cases t.others with
  | nil =>
    rw [List.map_nil, List.intercalate_singleton]
    exact t.first.takeWhile_ne_array
  | cons next rest =>
    rw [List.map_cons, List.intercalate_cons_cons, List.append_assoc, List.map_append]
    show List.takeWhile _ (_ ++ ' ' :: _) ≠ _
    rw [takeWhile_append_cons rfl]
    exact t.first.takeWhile_ne_array

private theorem tight_intercalate {parts : List (List Char)} (nonempty : parts ≠ [])
    (h : ∀ part ∈ parts, Text.Tight part) (sep : List Char) :
    Text.Tight (sep.intercalate parts) := by
  induction parts with
  | nil => exact absurd rfl nonempty
  | cons part rest ih =>
    have first := h part List.mem_cons_self
    cases rest with
    | nil => rwa [List.intercalate_singleton]
    | cons next rest =>
      rw [List.intercalate_cons_cons]
      exact first.append _
        (ih (List.cons_ne_nil next rest) fun p hp => h p (List.mem_cons_of_mem _ hp))

private theorem tight_alternatives (t : TypeText) : Text.Tight t.alternatives := by
  refine tight_intercalate (by simp [words]) (fun part hp => ?_) _
  obtain ⟨w, _, rfl⟩ := List.mem_map.mp hp
  exact w.tight

/-- A type text is cut into its `array of ` and its words. -/
theorem stripArrays_text (t : TypeText) :
    stripArrays (Text.trim (String.ofList t.text).toList) = (t.arrays.length, t.alternatives) := by
  rw [String.toList_ofList, text, Text.trim_of_tight (tight_arrays_append _ t.tight_alternatives)]
  exact stripArrays_append _ t.tight_alternatives t.dropArrayOf?_alternatives

theorem alternatives_eq (t : TypeText) (single : t.others = []) :
    t.alternatives = t.first.text := by
  rw [alternatives, words, single, List.map_singleton, List.intercalate_singleton]

theorem occursIn_alternatives (t : TypeText) :
    Text.occursIn unionWord t.alternatives = true ↔ t.others ≠ [] := by
  rw [Text.occursIn_iff]
  exact (Text.infix_intercalate_iff (by decide) _ t.first.avoids).trans (by simp)

theorem splitOn_alternatives (t : TypeText) :
    Text.splitOn unionWord t.alternatives = t.words.map TypeWord.text := by
  refine Text.splitOn_intercalate (by decide) (by simp [words]) fun part hp => ?_
  obtain ⟨w, _, rfl⟩ := List.mem_map.mp hp
  exact w.avoids

end TypeText

/-- The words of a type text are read as what they mean. -/
theorem read_alternatives (field : String) (t : TypeText) :
    (if Text.occursIn unionWord t.alternatives then
      unionOf field (Text.splitOn unionWord t.alternatives)
    else ofPageWord (some field) t.alternatives) = .ok (t.element field) := by
  cases others : t.others with
  | nil =>
    rw [if_neg (by rw [t.occursIn_alternatives]; simp [others]), t.alternatives_eq others,
      ofPageWord_text, TypeText.element, others]
  | cons next rest =>
    rw [if_pos (t.occursIn_alternatives.mpr (by simp [others])), t.splitOn_alternatives,
      unionOf_text, TypeText.element, others]

/-- What is left of a text without its `array of ` is read, and the arrays are put around that. -/
theorem ofPageText_eq {field text : String} {depth : Nat} {rest : List Char}
    (cut : stripArrays (Text.trim text.toList) = (depth, rest)) :
    ofPageText field text =
      (if Text.occursIn unionWord rest then unionOf field (Text.splitOn unionWord rest)
      else ofPageWord (some field) rest).map (arrays depth) := by
  unfold ofPageText
  rw [cut]
  dsimp only
  split
  · cases unionOf field (Text.splitOn unionWord rest) <;> rfl
  · cases ofPageWord (some field) rest <;> rfl

/-- A type text is read as what it says, whatever the letter case of its words, the white space
after each `array of ` and the number of alternatives. -/
theorem ofPageText_typeText (field : String) (t : TypeText) :
    ofPageText field (String.ofList t.text) = .ok (t.type field) := by
  rw [ofPageText_eq t.stripArrays_text, read_alternatives]
  rfl

/-- A text of two arrays with alternatives, one of them repeated. -/
example :
    let t : TypeText := ⟨[⟨"ARRAY of ".toList, ['\n', ' '], rfl, by simp [Text.isBlank]⟩,
        ⟨"array oF ".toList, [], rfl, by simp⟩],
      .scalar .integer "Integer" (by decide +kernel),
      [.scalar .floatNumber "FLOAT number" (by decide +kernel),
        .scalar .integer "INTEGER" (by decide +kernel)]⟩
    String.ofList t.text = "ARRAY of \n array oF Integer or FLOAT number or INTEGER" ∧
      t.type "chat_id" = .array (.array (.union [.scalar .int64, .scalar .float, .scalar .int64])) ∧
      t.type "count" = .array (.array (.union [.scalar .int, .scalar .float, .scalar .int])) := by
  decide +kernel

end WireType

end ApiReference
