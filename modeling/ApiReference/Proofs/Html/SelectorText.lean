import ApiReference.Html.Selector
import ApiReference.Proofs.Text.Trim

/-!
What the text of a selector is read as. Names hold no mark and values no opening bracket, so a part
is cut off the end of a text whatever stands before it (`parseParts_append`). The classes are read
last first, and of several parts that ask for one attribute the leftmost counts (`parse_textOf`). A
text is refused only for a part without a name (`parse_ok_iff`).
-/

namespace ApiReference.Html.Selector

/-! ## Parts of a selector -/

/-- A part of a selector after the name of the tag. -/
inductive Part where
  | identifier (name : String)
  | className (name : String)
  | present (name : String)
  | equals (name value : String)

/-- The characters that part a selector. -/
def marks : List Char := ['#', '.', '[', ']', '=']

/-- Whether a text can be a name in a selector, or none at all: it holds no white space and no
mark. -/
def IsPlain (name : String) : Prop := ∀ c ∈ name.toList, Text.isBlank c = false ∧ c ∉ marks

instance (name : String) : Decidable (IsPlain name) :=
  List.decidableBAll (fun c => Text.isBlank c = false ∧ c ∉ marks) name.toList

/-- Whether a value means a text: the value without the white space around it and, where a pair of
equal quotes stands around the rest, without that pair. -/
def Means (value text : String) : Prop :=
  (∃ quote ∈ ['"', '\''], Text.trim value.toList = quote :: (text.toList ++ [quote])) ∨
    (text.toList = Text.trim value.toList ∧
      ∀ quote ∈ ['"', '\''], ∀ inside, Text.trim value.toList ≠ quote :: (inside ++ [quote]))

namespace Part

/-- A part as it is written. -/
def text : Part → List Char
  | identifier name => '#' :: name.toList
  | className name => '.' :: name.toList
  | present name => '[' :: (name.toList ++ [']'])
  | equals name value => '[' :: (name.toList ++ '=' :: value.toList ++ [']'])

/-- The name that a part gives. -/
def name : Part → String
  | identifier name | className name | present name | equals name _ => name

/-- Whether a part can be told from what stands beside it. -/
def IsPlain : Part → Prop
  | identifier name | className name | present name => Selector.IsPlain name
  | equals name value => Selector.IsPlain name ∧ '[' ∉ value.toList

instance (part : Part) : Decidable part.IsPlain :=
  match part with
  | identifier name | className name | present name =>
    inferInstanceAs (Decidable (Selector.IsPlain name))
  | equals _ _ => inferInstanceAs (Decidable (_ ∧ _))

/-- The class that a part asks for. -/
def class? : Part → Option String
  | className name => some name
  | identifier _ | present _ | equals _ _ => none

/-- The name of the attribute that a part asks for, in small letters. -/
def attribute? : Part → Option String
  | identifier _ => some "id"
  | className _ => none
  | present name | equals name _ => some (Text.asciiLower name)

/-- Whether this is what a part asks of its attribute. -/
inductive Asks : Part → AttributeTest → Prop
  | identifier (name : String) : Asks (identifier name) (.equals name)
  | present (name : String) : Asks (present name) .any
  | equals {name value text : String} : Means value text → Asks (equals name value) (.equals text)

/-- Why a part without a name is refused. -/
def fault (source : String) : Part → SelectorFault
  | identifier _ => .emptyName '#' source
  | className _ => .emptyName '.' source
  | present _ | equals _ _ => .emptyAttribute source

end Part

/-- The text of a selector with these parts. -/
def textOf (tag : String) (parts : List Part) : String :=
  String.ofList (tag.toList ++ parts.flatMap Part.text)

/-- The leftmost part that asks for an attribute. -/
def leader? (parts : List Part) (name : String) : Option Part :=
  parts.find? fun part => part.attribute? == some name

/-! ## Values -/

/-- What stands in a text between a quote at its start and one at its end. -/
def quoted? (quote : Char) : List Char → Option (List Char)
  | c :: rest => if c == quote && rest.getLast? == some quote then some rest.dropLast else none
  | [] => none

theorem quoted?_eq_some {quote : Char} {cs inside : List Char} :
    quoted? quote cs = some inside ↔ cs = quote :: (inside ++ [quote]) := by
  cases cs with
  | nil => simp [quoted?]
  | cons c rest =>
    rw [quoted?]
    constructor
    · intro h
      split at h
      · rename_i ends
        rw [Bool.and_eq_true, beq_iff_eq, beq_iff_eq] at ends
        obtain ⟨before, rfl⟩ := List.getLast?_eq_some_iff.mp ends.2
        rw [List.dropLast_concat] at h
        rw [ends.1, Option.some.inj h]
      · cases h
    · intro h
      obtain ⟨rfl, rfl⟩ := List.cons.inj h
      simp

theorem unquote_eq (cs : List Char) :
    unquote cs =
      (quoted? '"' (Text.trim cs)).getD ((quoted? '\'' (Text.trim cs)).getD (Text.trim cs)) := rfl

theorem quoted?_eq_none {quote : Char} {cs : List Char} :
    quoted? quote cs = none ↔ ∀ inside, cs ≠ quote :: (inside ++ [quote]) := by
  simp only [Option.eq_none_iff_forall_ne_some, ne_eq, quoted?_eq_some]

theorem means_iff {value text : String} :
    Means value text ↔ String.ofList (unquote value.toList) = text := by
  have meaning : Means value text ↔
      (quoted? '"' (Text.trim value.toList) = some text.toList ∨
        quoted? '\'' (Text.trim value.toList) = some text.toList) ∨
      text.toList = Text.trim value.toList ∧ quoted? '"' (Text.trim value.toList) = none ∧
        quoted? '\'' (Text.trim value.toList) = none := by
    simp [Means, quoted?_eq_some, quoted?_eq_none]
  -- A text that starts with one kind of quote does not start with the other.
  have one {inside : List Char} (double : quoted? '"' (Text.trim value.toList) = some inside) :
      quoted? '\'' (Text.trim value.toList) = none := by
    rw [quoted?_eq_some.mp double]
    rfl
  rw [meaning, unquote_eq, ← String.toList_inj, String.toList_ofList]
  cases double : quoted? '"' (Text.trim value.toList) with
  | some inside => simp [one double]
  | none =>
    cases single : quoted? '\'' (Text.trim value.toList) with
    | some inside => simp
    | none => simp [eq_comm]

/-! ## The last part -/

theorem splitLast?_append {p : Char → Bool} {c : Char} {after : List Char} (mark : p c = true)
    (plain : ∀ d ∈ after, p d = false) (before : List Char) :
    splitLast? p (before ++ c :: after) = some (before, c, after) := by
  have turned : (before ++ c :: after).reverse = after.reverse ++ c :: before.reverse := by simp
  have passed : (before ++ c :: after).reverse.takeWhile (fun d => !p d) = after.reverse := by
    rw [turned, List.takeWhile_append_of_pos (by simpa using plain),
      List.takeWhile_cons_of_neg (by simp [mark]), List.append_nil]
  unfold splitLast?
  dsimp only
  rw [passed, turned, List.drop_left]
  simp

theorem splitLast?_eq_none {p : Char → Bool} {cs : List Char} (plain : ∀ d ∈ cs, p d = false) :
    splitLast? p cs = none := by
  have passed : cs.reverse.takeWhile (fun d => !p d) = cs.reverse := by
    rw [List.takeWhile_eq_self_iff]
    simpa using plain
  unfold splitLast?
  dsimp only
  rw [passed, List.drop_length]

theorem IsPlain.not_mem {name : String} (plain : IsPlain name) {c : Char} (mark : c ∈ marks) :
    c ∉ name.toList := fun hc => (plain c hc).2 mark

theorem IsPlain.not_cut {name : String} (plain : IsPlain name) :
    ∀ c ∈ name.toList, (c == '#' || c == '.' || c == '[') = false := by
  intro c hc
  have other := (plain c hc).2
  simp only [marks, List.mem_cons, not_or] at other
  simp [other]

theorem IsPlain.getLast?_ne {name : String} (plain : IsPlain name) :
    name.toList.getLast? ≠ some ']' :=
  fun last => plain.not_mem (by decide) (List.mem_of_getLast? last)

theorem IsPlain.no_equals {name : String} (plain : IsPlain name) :
    ∀ c ∈ name.toList, (c != '=') = true := by
  intro c hc
  rw [bne_iff_ne]
  rintro rfl
  exact plain.not_mem (by decide) hc

theorem IsPlain.trim {name : String} (plain : IsPlain name) :
    Text.trim name.toList = name.toList := by
  by_cases empty : name.toList = []
  · rw [empty]
    rfl
  · exact Text.trim_of_tight (Text.tight_of_forall empty fun c hc => (plain c hc).1)

/-- Nothing is cut off a name. -/
theorem lastPart_name {name : String} (plain : IsPlain name) (source : String) :
    lastPart source name.toList = .ok .none := by
  rw [lastPart, if_neg (by simpa using plain.getLast?_ne), splitLast?_eq_none plain.not_cut]

/-- An identifier or a class is cut off at its mark. -/
theorem lastPart_marked {name : String} {mark : Char} (plain : IsPlain name)
    (isMark : mark = '#' ∨ mark = '.') (source : String) (before : List Char) :
    lastPart source (before ++ mark :: name.toList) =
      if name = "" then .error (.emptyName mark source)
      else .ok (.named before mark name.toList) := by
  have cut : (mark == '#' || mark == '.' || mark == '[') = true := by
    rcases isMark with rfl | rfl <;> rfl
  have opened : (mark == '[') = false := by
    rcases isMark with rfl | rfl <;> rfl
  have closed : (before ++ mark :: name.toList).getLast? ≠ some ']' := by
    rw [List.getLast?_append, List.getLast?_cons, Option.some_or]
    cases last : name.toList.getLast? with
    | none => rcases isMark with rfl | rfl <;> decide
    | some c =>
      rw [Option.getD_some, ← last]
      exact plain.getLast?_ne
  rw [lastPart, if_neg (by simpa using closed), splitLast?_append cut plain.not_cut]
  dsimp only
  rw [opened]
  simp

/-- A test on an attribute is cut off at its opening bracket. -/
theorem lastPart_bracketed {inside : List Char} {name : String} {test : AttributeTest}
    (closed : '[' ∉ inside) (read : readTest inside = (name.toList, test)) (source : String)
    (before : List Char) :
    lastPart source (before ++ '[' :: (inside ++ [']'])) =
      if name = "" then .error (.emptyAttribute source)
      else .ok (.attribute before name.toList test) := by
  have ends : (before ++ '[' :: (inside ++ [']'])).getLast? = some ']' := by
    rw [← List.cons_append, ← List.append_assoc, List.getLast?_concat]
  have plain : ∀ c ∈ inside ++ [']'], (c == '[') = false := by
    intro c hc
    rw [beq_eq_false_iff_ne]
    rintro rfl
    simp [closed] at hc
  rw [lastPart, if_pos (by simpa using ends), splitLast?_append (p := (· == '[')) rfl plain]
  dsimp only
  rw [List.dropLast_concat, read]
  simp

theorem readTest_present {name : String} (plain : IsPlain name) :
    readTest name.toList = (name.toList, .any) := by
  have whole : name.toList.takeWhile (· != '=') = name.toList :=
    List.takeWhile_eq_self_iff.mpr plain.no_equals
  unfold readTest
  dsimp only
  rw [whole, List.drop_length, plain.trim]

theorem readTest_equals {name : String} (plain : IsPlain name) (value : List Char) :
    readTest (name.toList ++ '=' :: value) =
      (name.toList, .equals (String.ofList (unquote value))) := by
  have stretch : (name.toList ++ '=' :: value).takeWhile (· != '=') = name.toList := by
    rw [List.takeWhile_append_of_pos plain.no_equals, List.takeWhile_cons_of_neg (by simp),
      List.append_nil]
  unfold readTest
  dsimp only
  rw [stretch, List.drop_left, plain.trim]

/-- What a part asks of its attribute; nothing, if it asks for none. -/
def Part.test : Part → AttributeTest
  | identifier name => .equals name
  | equals _ value => .equals (String.ofList (unquote value.toList))
  | present _ | className _ => .any

/-- A part that is cut off the end of a text, with the text before it. -/
def Part.last (before : List Char) : Part → LastPart
  | identifier name => .named before '#' name.toList
  | className name => .named before '.' name.toList
  | present name => .attribute before name.toList .any
  | equals name value =>
    .attribute before name.toList (.equals (String.ofList (unquote value.toList)))

/-- The last part of a text is cut off whole, whatever stands before it, if it has a name. -/
theorem lastPart_append {part : Part} (plain : part.IsPlain) (source : String)
    (before : List Char) :
    lastPart source (before ++ part.text) =
      if part.name = "" then .error (part.fault source) else .ok (part.last before) := by
  cases part with
  | identifier name => exact lastPart_marked plain (.inl rfl) source before
  | className name => exact lastPart_marked plain (.inr rfl) source before
  | present name =>
    exact lastPart_bracketed (plain.not_mem (by decide)) (readTest_present plain) source before
  | equals name value =>
    have closed : '[' ∉ name.toList ++ '=' :: value.toList := by
      rw [List.mem_append, List.mem_cons, not_or, not_or]
      exact ⟨plain.1.not_mem (by decide), by decide, plain.2⟩
    exact lastPart_bracketed closed (readTest_equals plain.1 value.toList) source before

/-! ## All parts -/

/-- The tests of parts, by attribute. -/
def tests : List Part → List (String × AttributeTest)
  | [] => []
  | part :: rest =>
    match part.attribute? with
    | some name => setTest name part.test (tests rest)
    | none => tests rest

/-- The selector that has these parts after a tag. -/
def ofParts (source : String) (tag : Option String) (parts : List Part) : Selector :=
  ⟨source, tag, (parts.filterMap Part.class?).reverse, tests parts⟩

theorem parseParts_eq (sofar : Selector) (cs : List Char) :
    parseParts sofar cs =
      match lastPart sofar.source cs with
      | .error fault => .error fault
      | .ok .none =>
        .ok { sofar with
          tag := if cs.isEmpty then none else some (Text.asciiLower (String.ofList cs)) }
      | .ok (.attribute before name test) =>
        parseParts { sofar with
          attributes := setTest (Text.asciiLower (String.ofList name)) test sofar.attributes }
          before
      | .ok (.named before mark name) =>
        if mark == '#' then
          parseParts { sofar with
            attributes := setTest "id" (.equals (String.ofList name)) sofar.attributes } before
        else
          parseParts { sofar with classes := sofar.classes ++ [String.ofList name] } before := by
  rw [parseParts]
  split <;> rename_i last <;> rw [last]

/-- A part at the end of a text is read before the parts that stand before it. -/
theorem parseParts_append {part : Part} (plain : part.IsPlain) (source : String)
    (before : List Char) (done : List Part) :
    parseParts (ofParts source none done) (before ++ part.text) =
      if part.name = "" then .error (part.fault source)
      else parseParts (ofParts source none (part :: done)) before := by
  have last : lastPart (ofParts source none done).source (before ++ part.text) = _ :=
    lastPart_append plain source before
  rw [parseParts_eq, last]
  by_cases named : part.name = ""
  · rw [if_pos named, if_pos named]
  · rw [if_neg named, if_neg named]
    cases part <;>
      simp [Part.last, ofParts, tests, Part.attribute?, Part.test, Part.class?, List.filterMap_cons]

/-- Parts are read up to the last one without a name. -/
theorem parseParts_parts {tag : String} (plainTag : IsPlain tag) (source : String)
    {parts : List Part} (plain : ∀ part ∈ parts, part.IsPlain) (done : List Part) :
    parseParts (ofParts source none done) (tag.toList ++ parts.flatMap Part.text) =
      match parts.reverse.find? fun part => part.name = "" with
      | some part => .error (part.fault source)
      | none => .ok (ofParts source (if tag = "" then none else some (Text.asciiLower tag))
          (parts ++ done)) := by
  -- The last part is read first, and what is done already grows at its front.
  induction parts using List.reverseRecOn generalizing done with
  | nil =>
    have last : lastPart (ofParts source none done).source tag.toList = _ :=
      lastPart_name plainTag source
    rw [List.flatMap_nil, List.append_nil, parseParts_eq, last]
    simp [ofParts]
  | append_singleton parts part ih =>
    have before : ∀ q ∈ parts, q.IsPlain := fun q hq => plain q (List.mem_append_left _ hq)
    have here : part.IsPlain := plain part (by simp)
    rw [List.flatMap_append, List.flatMap_singleton, ← List.append_assoc, parseParts_append here,
      ih before, List.reverse_concat, List.find?_cons, List.append_assoc, List.singleton_append]
    by_cases named : part.name = "" <;> simp [named]

/-! ## White space -/

theorem Part.IsPlain.tight {part : Part} (plain : part.IsPlain) : Text.Tight part.text := by
  have marked {mark : Char} {name : String} (visible : Text.isBlank mark = false)
      (plain : Selector.IsPlain name) : Text.Tight (mark :: name.toList) := by
    refine Text.tight_of_forall (List.cons_ne_nil _ _) fun c hc => ?_
    rcases List.mem_cons.mp hc with rfl | hc
    · exact visible
    · exact (plain c hc).1
  cases part with
  | identifier name => exact marked rfl plain
  | className name => exact marked rfl plain
  | present name => exact Text.tight_of_ends _ rfl rfl
  | equals name value => exact Text.tight_of_ends _ rfl rfl

private theorem tight_append {cs : List Char} (start : cs = [] ∨ Text.Tight cs)
    {parts : List Part} (plain : ∀ part ∈ parts, part.IsPlain) :
    cs ++ parts.flatMap Part.text = [] ∨ Text.Tight (cs ++ parts.flatMap Part.text) := by
  induction parts generalizing cs with
  | nil => simpa using start
  | cons part parts ih =>
    have here := (plain part List.mem_cons_self).tight
    have later : ∀ q ∈ parts, q.IsPlain := fun q hq => plain q (List.mem_cons_of_mem _ hq)
    rw [List.flatMap_cons, ← List.append_assoc]
    refine ih (.inr ?_) later
    rcases start with rfl | tight
    · exact here
    · simpa using tight.append [] here

/-- No white space stands around a selector. -/
theorem trim_textOf {tag : String} (plainTag : IsPlain tag) {parts : List Part}
    (plain : ∀ part ∈ parts, part.IsPlain) :
    Text.trim (textOf tag parts).toList = tag.toList ++ parts.flatMap Part.text := by
  have start : tag.toList = [] ∨ Text.Tight tag.toList := by
    by_cases empty : tag.toList = []
    · exact .inl empty
    · exact .inr (Text.tight_of_forall empty fun c hc => (plainTag c hc).1)
  rw [textOf, String.toList_ofList]
  rcases tight_append start plain with empty | tight
  · rw [empty]
    rfl
  · exact Text.trim_of_tight tight

/-- A selector is what its parts say, unless one of them has no name. -/
theorem parse_parts {tag : String} (plainTag : IsPlain tag) {parts : List Part}
    (plain : ∀ part ∈ parts, part.IsPlain) :
    parse (textOf tag parts) =
      match parts.reverse.find? fun part => part.name = "" with
      | some part => .error (part.fault (textOf tag parts))
      | none => .ok (ofParts (textOf tag parts)
          (if tag = "" then none else some (Text.asciiLower tag)) parts) := by
  have read := parseParts_parts plainTag (textOf tag parts) plain []
  rw [List.append_nil] at read
  rw [parse, trim_textOf plainTag plain]
  exact read

theorem parse_of_named {tag : String} (plainTag : IsPlain tag) {parts : List Part}
    (plain : ∀ part ∈ parts, part.IsPlain) (named : ∀ part ∈ parts, part.name ≠ "") :
    parse (textOf tag parts) = .ok (ofParts (textOf tag parts)
      (if tag = "" then none else some (Text.asciiLower tag)) parts) := by
  have all : (parts.reverse.find? fun part => part.name = "") = none := by
    simpa [List.find?_eq_none] using named
  rw [parse_parts plainTag plain, all]

/-- A selector can be read just if all of its parts have names. -/
theorem parse_ok_iff {tag : String} (plainTag : IsPlain tag) {parts : List Part}
    (plain : ∀ part ∈ parts, part.IsPlain) :
    (∃ s, parse (textOf tag parts) = .ok s) ↔ ∀ part ∈ parts, part.name ≠ "" := by
  constructor
  · rintro ⟨s, read⟩ part among nameless
    rw [parse_parts plainTag plain] at read
    split at read
    · cases read
    · rename_i all
      rw [List.find?_eq_none] at all
      exact all part (List.mem_reverse.mpr among) (by simpa using nameless)
  · exact fun named => ⟨_, parse_of_named plainTag plain named⟩

/-! ## Tests by attribute -/

private theorem lookup_cons_eq (name key : String) (test : AttributeTest)
    (rest : List (String × AttributeTest)) :
    ((key, test) :: rest).lookup name = if name = key then some test else rest.lookup name := by
  rw [List.lookup_cons]
  by_cases here : name = key
  · simp [here]
  · rw [beq_eq_false_iff_ne.mpr here, if_neg here]

/-- A test that is set counts for its attribute and for no other. -/
theorem lookup_setTest (key name : String) (test : AttributeTest)
    (tests : List (String × AttributeTest)) :
    (setTest key test tests).lookup name =
      if name = key then some test else tests.lookup name := by
  induction tests with
  | nil => exact lookup_cons_eq name key test []
  | cons first rest ih =>
    obtain ⟨other, old⟩ := first
    rw [setTest]
    split
    · rename_i same
      obtain rfl := beq_iff_eq.mp same
      by_cases here : name = key <;> simp only [lookup_cons_eq, here, if_true, if_false]
    · rename_i differs
      split
      · exact lookup_cons_eq name key test _
      · rw [lookup_cons_eq, lookup_cons_eq, ih]
        by_cases here : name = other
        · have apart : name ≠ key := by
            rintro rfl
            exact differs (by simpa using here)
          rw [if_pos here, if_neg apart, if_pos here]
        · rw [if_neg here, if_neg here]

theorem mem_keys_setTest {name key : String} {test : AttributeTest}
    {tests : List (String × AttributeTest)} (h : key ∈ (setTest name test tests).map Prod.fst) :
    key = name ∨ key ∈ tests.map Prod.fst := by
  induction tests with
  | nil => exact .inl (by simpa [setTest] using h)
  | cons first rest ih =>
    obtain ⟨other, old⟩ := first
    rw [setTest] at h
    split at h
    · rename_i same
      obtain rfl := beq_iff_eq.mp same
      exact .inr h
    · split at h
      · simpa using h
      · rw [List.map_cons, List.mem_cons] at h ⊢
        rcases h with here | later
        · exact .inr (.inl here)
        · exact (ih later).imp_right .inr

theorem sorted_setTest {name : String} {test : AttributeTest}
    {tests : List (String × AttributeTest)} (sorted : (tests.map Prod.fst).Pairwise (· < ·)) :
    ((setTest name test tests).map Prod.fst).Pairwise (· < ·) := by
  induction tests with
  | nil => exact List.pairwise_singleton _ _
  | cons first rest ih =>
    obtain ⟨key, old⟩ := first
    obtain ⟨less, later⟩ := List.pairwise_cons.mp sorted
    rw [setTest]
    split
    · rename_i same
      obtain rfl := beq_iff_eq.mp same
      exact sorted
    · rename_i differs
      split
      · rename_i before
        refine List.pairwise_cons.mpr ⟨fun other among => ?_, sorted⟩
        rcases List.mem_cons.mp among with rfl | among
        · exact before
        · exact before.trans (less other among)
      · rename_i notBefore
        refine List.pairwise_cons.mpr ⟨fun other among => ?_, ih later⟩
        rcases mem_keys_setTest among with rfl | among
        · have apart : other ≠ key := by simpa using differs
          exact lt_of_le_of_ne (not_lt.mp notBefore) apart.symm
        · exact less other among

/-- The tests of parts are in the order of their attributes, each of which has one. -/
theorem sorted_tests (parts : List Part) : ((tests parts).map Prod.fst).Pairwise (· < ·) := by
  induction parts with
  | nil => exact .nil
  | cons part parts ih =>
    rw [tests]
    split
    · exact sorted_setTest ih
    · exact ih

/-- The test on an attribute is that of the leftmost part that asks for it. -/
theorem lookup_tests (parts : List Part) (name : String) :
    (tests parts).lookup name = (leader? parts name).map Part.test := by
  induction parts with
  | nil => rfl
  | cons part parts ih =>
    rw [tests, leader?, List.find?_cons, ← leader?]
    cases asked : part.attribute? with
    | none => simpa using ih
    | some key =>
      dsimp only
      rw [lookup_setTest, ih]
      by_cases here : name = key
      · simp [here]
      · have other : (some key == some name) = false := by simpa using Ne.symm here
        rw [if_neg here, other]

theorem mem_iff_lookup {tests : List (String × AttributeTest)} {name : String}
    {test : AttributeTest} (sorted : (tests.map Prod.fst).Pairwise (· < ·)) :
    (name, test) ∈ tests ↔ tests.lookup name = some test := by
  constructor
  · intro among
    induction tests with
    | nil => cases among
    | cons first rest ih =>
      obtain ⟨key, old⟩ := first
      obtain ⟨less, later⟩ := List.pairwise_cons.mp sorted
      rw [lookup_cons_eq]
      rcases List.mem_cons.mp among with here | among
      · obtain ⟨rfl, rfl⟩ := Prod.mk.inj here
        rw [if_pos rfl]
      · rw [if_neg (less name (List.mem_map_of_mem (f := Prod.fst) among)).ne', ih later among]
  · intro found
    obtain ⟨before, after, rfl, -⟩ := List.lookup_eq_some_iff.mp found
    simp

/-- The tests are those of the parts that lead. -/
theorem mem_tests_iff {parts : List Part} {name : String} {test : AttributeTest} :
    (name, test) ∈ tests parts ↔ ∃ part, leader? parts name = some part ∧ part.test = test := by
  rw [mem_iff_lookup (sorted_tests parts), lookup_tests, Option.map_eq_some_iff]

theorem asks_iff {part : Part} {test : AttributeTest} :
    part.Asks test ↔ part.attribute?.isSome ∧ part.test = test := by
  constructor
  · intro asks
    cases asks with
    | identifier name => exact ⟨rfl, rfl⟩
    | present name => exact ⟨rfl, rfl⟩
    | equals means => exact ⟨rfl, congrArg AttributeTest.equals (means_iff.mp means)⟩
  · rintro ⟨asked, rfl⟩
    cases part with
    | identifier name => exact .identifier name
    | className name => cases asked
    | present name => exact .present name
    | equals name value => exact .equals (means_iff.mpr rfl)

/-- A selector whose parts have names is read as they say: its tag is the tag in small letters, its
classes are those of the parts, last first, and it has one test for each attribute that a part asks
for, by the order of the attributes, which is what the leftmost of these parts asks. -/
theorem parse_textOf {tag : String} (plainTag : IsPlain tag) {parts : List Part}
    (plain : ∀ part ∈ parts, part.IsPlain) (named : ∀ part ∈ parts, part.name ≠ "") :
    ∃ attributes,
      parse (textOf tag parts) = .ok ⟨textOf tag parts,
        if tag = "" then none else some (Text.asciiLower tag),
        (parts.filterMap Part.class?).reverse, attributes⟩ ∧
      (attributes.map Prod.fst).Pairwise (· < ·) ∧
      ∀ name test, attributes.lookup name = some test ↔
        ∃ part, leader? parts name = some part ∧ part.Asks test := by
  refine ⟨tests parts, parse_of_named plainTag plain named, sorted_tests parts,
    fun name test => ?_⟩
  rw [lookup_tests, Option.map_eq_some_iff]
  refine exists_congr fun part => and_congr_right fun leads => ?_
  have asked : part.attribute? = some name := by simpa using List.find?_some leads
  rw [asks_iff, asked]
  simp

/-- Parts that ask for one attribute twice, and a value with marks in it. -/
def mixedParts : List Part :=
  [.identifier "main", .className "a", .equals "data-x" " 'p.q#]' ", .className "b", .present "ID",
    .equals "DATA-X" "2"]

theorem parse_mixedParts :
    IsPlain "DIV" ∧ (∀ part ∈ mixedParts, part.IsPlain) ∧ (∀ part ∈ mixedParts, part.name ≠ "") ∧
    ∃ attributes,
      parse "DIV#main.a[data-x= 'p.q#]' ].b[ID][DATA-X=2]" =
        .ok ⟨"DIV#main.a[data-x= 'p.q#]' ].b[ID][DATA-X=2]", some "div", ["b", "a"], attributes⟩ ∧
      attributes.lookup "data-x" = some (.equals "p.q#]") ∧
      attributes.lookup "id" = some (.equals "main") := by
  have plainTag : IsPlain "DIV" := by decide
  have plain : ∀ part ∈ mixedParts, part.IsPlain := by decide
  have named : ∀ part ∈ mixedParts, part.name ≠ "" := by decide
  obtain ⟨attributes, read, _, leftmost⟩ := parse_textOf plainTag plain named
  have text : textOf "DIV" mixedParts = "DIV#main.a[data-x= 'p.q#]' ].b[ID][DATA-X=2]" := by decide
  have small : Text.asciiLower "DIV" = "div" := by decide
  rw [text, if_neg (by decide), small] at read
  refine ⟨plainTag, plain, named, attributes, read, ?_, ?_⟩
  · refine (leftmost _ _).mpr ⟨.equals "data-x" " 'p.q#]' ", by cbv, .equals ?_⟩
    exact means_iff.mpr (by cbv)
  · exact (leftmost _ _).mpr ⟨.identifier "main", by cbv, .identifier "main"⟩

end ApiReference.Html.Selector
