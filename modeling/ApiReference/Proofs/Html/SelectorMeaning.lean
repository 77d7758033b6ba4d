import ApiReference.Proofs.Html.SelectorText
import ApiReference.Proofs.Text.Case
import ApiReference.Proofs.Text.Split

/-!
Which elements a selector matches. Of several parts that ask for one attribute only the leftmost
counts, so a selector matches the elements that all of its parts hold of just if no part with a
value stands behind one that asks for something else, or if it matches nothing (`matches_textOf`).
-/

namespace ApiReference.Html

/-! ## Attributes in any letter case -/

theorem Element.attribute?_asciiLower (e : Element) (name : String) :
    e.attribute? (Text.asciiLower name) = e.attribute? name := by
  have same (a : Attribute) : Text.equalIgnoringCase a.name (Text.asciiLower name) =
      Text.equalIgnoringCase a.name name :=
    Text.equalIgnoringCase_congr rfl (Text.asciiLower_asciiLower name)
  simp only [Element.attribute?, same]

/-- An element with a space after the value of an attribute. -/
def Element.spaced (e : Element) (name : String) : Element :=
  { e with attributes := e.attributes.map fun a =>
      if Text.equalIgnoringCase a.name name then { a with value := a.value ++ " " } else a }

theorem Element.attribute?_spaced (e : Element) (key name : String) :
    (e.spaced key).attribute? name =
      (e.attribute? name).map fun value =>
        if Text.equalIgnoringCase name key then value ++ " " else value := by
  have kept (a : Attribute) : (if Text.equalIgnoringCase a.name key then
      { a with value := a.value ++ " " } else a).name = a.name := by
    split <;> rfl
  simp only [attribute?, spaced, List.find?_map, Function.comp_def, kept]
  cases found : e.attributes.find? fun a => Text.equalIgnoringCase a.name name with
  | none => rfl
  | some a =>
    have named := List.find?_some found
    have same : Text.equalIgnoringCase a.name key = Text.equalIgnoringCase name key :=
      Text.equalIgnoringCase_congr (Text.equalIgnoringCase_iff_asciiLower.mp named) rfl
    rw [Option.map_some, Option.map_some, Option.map_some, same]
    split <;> rfl

namespace Selector

/-! ## The parts that count -/

/-- Whether a part holds of an element. -/
def Part.Holds (e : Element) : Part → Prop
  | identifier name => e.attribute? "id" = some name
  | className name =>
    ∃ value, e.attribute? "class" = some value ∧ name.toList ∈ Text.words value.toList
  | present _ => True
  | equals name value => ∃ text, Means value text ∧ e.attribute? name = some text

/-- Whether an element has the name that a selector gives, if it gives one. -/
def Names (tag : String) (e : Element) : Prop :=
  tag = "" ∨ Text.equalIgnoringCase e.name tag = true

/-- Whether a part counts: a class does, and else the leftmost part for an attribute. -/
def Counts (parts : List Part) (part : Part) : Prop :=
  part ∈ parts ∧ ∀ name, part.attribute? = some name → leader? parts name = some part

/-- Whether every part that asks for a value of an attribute asks for the same as the leftmost part
for that attribute. -/
def Agree (parts : List Part) : Prop :=
  ∀ part ∈ parts, ∀ name text, part.attribute? = some name → part.Asks (.equals text) →
    ∀ lead, leader? parts name = some lead → lead.Asks (.equals text)

/-- What a part asks of its attribute decides whether it holds. -/
theorem Part.holds_iff {part : Part} {name : String} (asked : part.attribute? = some name)
    (e : Element) : part.Holds e ↔ passes e name part.test = true := by
  cases part with
  | identifier id =>
    cases asked
    simp [Part.Holds, passes, Part.test]
  | className name => cases asked
  | present name => simp [Part.Holds, passes, Part.test]
  | equals key value =>
    cases asked
    simp [Part.Holds, passes, Part.test, means_iff, Element.attribute?_asciiLower]

theorem Part.attribute?_eq_none {part : Part} :
    part.attribute? = none ↔ ∃ name, part = .className name := by
  cases part <;> simp [Part.attribute?]

theorem mem_classes {parts : List Part} {name : String} :
    name ∈ (parts.filterMap Part.class?).reverse ↔ .className name ∈ parts := by
  have only (part : Part) : part.class? = some name ↔ part = .className name := by
    cases part <;> simp [Part.class?]
  simp [only]

theorem asks_of_leader? {parts : List Part} {name : String} {part : Part}
    (h : leader? parts name = some part) : part ∈ parts ∧ part.attribute? = some name :=
  ⟨List.mem_of_find?_eq_some h, by simpa using List.find?_some h⟩

theorem counts_of_leader? {parts : List Part} {name : String} {part : Part}
    (h : leader? parts name = some part) : Counts parts part := by
  obtain ⟨among, asked⟩ := asks_of_leader? h
  refine ⟨among, fun other asked' => ?_⟩
  obtain rfl := Option.some.inj (asked.symm.trans asked')
  exact h

theorem matchesClasses_iff (s : Selector) (e : Element) :
    s.matchesClasses e = true ↔ ∀ name ∈ s.classes, (Part.className name).Holds e := by
  have named (name : String) (present : List (List Char)) :
      (present.map String.ofList).contains name = true ↔ name.toList ∈ present := by
    rw [List.contains_iff_mem, List.mem_map]
    constructor
    · rintro ⟨word, among, rfl⟩
      rwa [String.toList_ofList]
    · exact fun among => ⟨_, among, String.ofList_toList⟩
  rw [matchesClasses, Bool.or_eq_true, List.isEmpty_iff]
  cases given : e.attribute? "class" with
  | none => simp [Part.Holds, given, List.eq_nil_iff_forall_not_mem]
  | some value =>
    simp only [Part.Holds, given, Option.some.injEq, exists_eq_left', List.all_eq_true, named]
    constructor
    · rintro (none | all)
      · simp [none]
      · exact all
    · exact .inr

theorem matchesElement_iff (s : Selector) (e : Element) :
    s.matchesElement e = true ↔
      (∀ tag, s.tag = some tag → Text.equalIgnoringCase e.name tag = true) ∧
      (∀ name ∈ s.classes, (Part.className name).Holds e) ∧
      ∀ name test, (name, test) ∈ s.attributes → passes e name test = true := by
  rw [matchesElement, Bool.and_eq_true, Bool.and_eq_true, matchesClasses_iff, and_assoc,
    List.all_eq_true, Prod.forall]
  refine and_congr_left fun _ => ?_
  cases s.tag <;> simp

theorem matches_ofParts (source tag : String) (parts : List Part) (e : Element) :
    (ofParts source (if tag = "" then none else some (Text.asciiLower tag)) parts).matchesElement e
        = true ↔
      Names tag e ∧ ∀ part, Counts parts part → part.Holds e := by
  have tagged : (∀ small, (if tag = "" then none else some (Text.asciiLower tag)) = some small →
      Text.equalIgnoringCase e.name small = true) ↔ Names tag e := by
    by_cases empty : tag = "" <;>
      simp [Names, empty, Text.equalIgnoringCase_iff_asciiLower, Text.asciiLower_asciiLower]
  rw [matchesElement_iff, ofParts]
  dsimp only
  rw [tagged]
  refine and_congr_right fun _ => ?_
  constructor
  · rintro ⟨classes, led⟩ part ⟨among, leads⟩
    cases asked : part.attribute? with
    | none =>
      obtain ⟨name, rfl⟩ := Part.attribute?_eq_none.mp asked
      exact classes name (mem_classes.mpr among)
    | some name =>
      rw [Part.holds_iff asked]
      exact led name part.test (mem_tests_iff.mpr ⟨part, leads name asked, rfl⟩)
  · intro all
    refine ⟨fun name among => ?_, fun name test among => ?_⟩
    · exact all (.className name) ⟨mem_classes.mp among, by simp [Part.attribute?]⟩
    · obtain ⟨part, leads, rfl⟩ := mem_tests_iff.mp among
      exact (Part.holds_iff (asks_of_leader? leads).2 e).mp (all part (counts_of_leader? leads))

/-! ## When all parts count -/

/-- A part that asks for an attribute leads or stands behind the one that does. -/
theorem exists_leader? {parts : List Part} {part : Part} {name : String} (among : part ∈ parts)
    (asked : part.attribute? = some name) : ∃ lead, leader? parts name = some lead :=
  Option.isSome_iff_exists.mp (List.find?_isSome.mpr ⟨part, among, by simpa using asked⟩)

/-- Where the parts agree, all of them hold if those do that count. -/
theorem Agree.holds {parts : List Part} (agree : Agree parts) {e : Element}
    (counted : ∀ part, Counts parts part → part.Holds e) : ∀ part ∈ parts, part.Holds e := by
  intro part among
  cases asked : part.attribute? with
  | none => exact counted part ⟨among, by simp [asked]⟩
  | some name =>
    obtain ⟨lead, leads⟩ := exists_leader? among asked
    have holds := counted lead (counts_of_leader? leads)
    rw [Part.holds_iff asked]
    rw [Part.holds_iff (asks_of_leader? leads).2] at holds
    cases test : part.test with
    | any => rfl
    | equals text =>
      have asks : part.Asks (.equals text) := asks_iff.mpr ⟨by simp [asked], test⟩
      rw [← (asks_iff.mp (agree part among name text asked asks lead leads)).2]
      exact holds

theorem Part.small_attribute? {part : Part} {name : String} (asked : part.attribute? = some name) :
    Text.asciiLower name = name := by
  cases part with
  | identifier id =>
    cases asked
    decide
  | className name => cases asked
  | present key | equals key value =>
    cases asked
    exact Text.asciiLower_asciiLower key

/-- A space after the value of an attribute changes nothing for a part that asks for no value of
that attribute. -/
theorem Part.Holds.spaced {part : Part} {e : Element} {name : String} (holds : part.Holds e)
    (small : Text.asciiLower name = name)
    (other : part.attribute? = some name → part.test = .any) : part.Holds (e.spaced name) := by
  cases asked : part.attribute? with
  | none =>
    obtain ⟨word, rfl⟩ := attribute?_eq_none.mp asked
    obtain ⟨value, given, among⟩ := holds
    refine ⟨_, by rw [Element.attribute?_spaced, given, Option.map_some], ?_⟩
    split
    · rwa [String.toList_append, show " ".toList = [' '] from rfl, Text.words_append_blank rfl]
    · exact among
  | some key =>
    rw [Part.holds_iff asked] at holds ⊢
    by_cases here : key = name
    · rw [other (here ▸ asked)]
      rfl
    · have apart : Text.equalIgnoringCase key name = false := by
        rw [← Bool.not_eq_true, Text.equalIgnoringCase_iff_asciiLower, small,
          small_attribute? asked]
        exact here
      have same : (e.spaced name).attribute? key = e.attribute? key := by
        simp [Element.attribute?_spaced, apart]
      cases test : part.test with
      | any => rfl
      | equals text =>
        rw [test, passes] at holds
        rw [passes, same]
        exact holds

/-- Where the parts do not agree, not all of them hold of some element that those hold of that
count, if there is any. -/
theorem agree_of_forall {parts : List Part} {tag : String} {e : Element} (named : Names tag e)
    (counted : ∀ part, Counts parts part → part.Holds e)
    (all : ∀ e, Names tag e → (∀ part, Counts parts part → part.Holds e) →
      ∀ part ∈ parts, part.Holds e) : Agree parts := by
  intro part among name text asked asks lead leads
  obtain ⟨among', asked'⟩ := asks_of_leader? leads
  have test : part.test = .equals text := (asks_iff.mp asks).2
  have wanted {e : Element} (holds : part.Holds e) : e.attribute? name = some text := by
    rw [Part.holds_iff asked, test] at holds
    simpa [passes] using holds
  have given := wanted (all e named counted part among)
  cases first : lead.test with
  | equals other =>
    have holds := counted lead (counts_of_leader? leads)
    rw [Part.holds_iff asked', first, passes, given] at holds
    obtain rfl : text = other := by simpa using holds
    exact asks_iff.mpr ⟨by simp [asked'], first⟩
  | any =>
    -- The leftmost part asks for no value, so a longer value of the attribute passes as well.
    exfalso
    have counted' : ∀ q, Counts parts q → q.Holds (e.spaced name) := by
      intro q counts
      refine (counted q counts).spaced (Part.small_attribute? asked) fun same => ?_
      obtain rfl := Option.some.inj (leads.symm.trans (counts.2 name same))
      exact first
    have longer := wanted (all (e.spaced name) named counted' part among)
    rw [Element.attribute?_spaced, given, Option.map_some,
      if_pos (Text.equalIgnoringCase_iff_asciiLower.mpr rfl)] at longer
    have length := congrArg String.length (Option.some.inj longer)
    simp at length

theorem matchesNode_of_parse {tag : String} (plainTag : IsPlain tag) {parts : List Part}
    (plain : ∀ part ∈ parts, part.IsPlain) {s : Selector}
    (read : parse (textOf tag parts) = .ok s) (e : Element) (children : List Node) :
    s.matchesNode (.mk (.element e) children) = true ↔
      Names tag e ∧ ∀ part, Counts parts part → part.Holds e := by
  have named := (parse_ok_iff plainTag plain).mp ⟨s, read⟩
  obtain rfl := Except.ok.inj ((parse_of_named plainTag plain named).symm.trans read)
  exact matches_ofParts (textOf tag parts) tag parts e

/-- A selector can be read if all of its parts have names, and matches the elements that its tag and
the parts that count hold of. These are the elements that all of its parts hold of just if the parts
agree, or if there are none. -/
theorem matches_textOf {tag : String} (plainTag : IsPlain tag) {parts : List Part}
    (plain : ∀ part ∈ parts, part.IsPlain) :
    ((∃ s, parse (textOf tag parts) = .ok s) ↔ ∀ part ∈ parts, part.name ≠ "") ∧
    ∀ s, parse (textOf tag parts) = .ok s →
      (∀ e children, s.matchesNode (.mk (.element e) children) = true ↔
        Names tag e ∧ ∀ part, Counts parts part → part.Holds e) ∧
      ((∀ e children, s.matchesNode (.mk (.element e) children) = true ↔
          Names tag e ∧ ∀ part ∈ parts, part.Holds e) ↔
        Agree parts ∨ ∀ e children, s.matchesNode (.mk (.element e) children) = false) := by
  refine ⟨parse_ok_iff plainTag plain, fun s read => ?_⟩
  have counted := matchesNode_of_parse plainTag plain read
  refine ⟨counted, ?_⟩
  constructor
  · intro all
    by_cases some : ∃ e, Names tag e ∧ ∀ part, Counts parts part → part.Holds e
    · obtain ⟨e, named, holds⟩ := some
      refine .inl (agree_of_forall named holds fun e named holds => ?_)
      exact ((all e []).mp ((counted e []).mpr ⟨named, holds⟩)).2
    · refine .inr fun e children => ?_
      rw [← Bool.not_eq_true, counted e children]
      exact fun holds => some ⟨e, holds⟩
  · rintro (agree | none) e children
    · rw [counted e children]
      refine and_congr_right fun _ => ⟨agree.holds, fun all part counts => all part counts.1⟩
    · refine ⟨fun found => ?_, fun all => ?_⟩
      · rw [none e children] at found
        cases found
      · exact (counted e children).mpr ⟨all.1, fun part counts => all.2 part counts.1⟩

/-- Parts that ask for one attribute twice, and for the same value. -/
def agreeingParts : List Part :=
  [.className "x", .equals "ROWSPAN" "'2'", .present "id", .equals "rowspan" " 2 "]

private theorem agree_agreeingParts : Agree agreeingParts := by
  have leads : leader? agreeingParts "rowspan" = some (.equals "ROWSPAN" "'2'") := by cbv
  have two : (Part.equals "ROWSPAN" "'2'").test = (Part.equals "rowspan" " 2 ").test := by cbv
  intro part among name text asked asks lead leads'
  simp only [agreeingParts, List.mem_cons, List.not_mem_nil, or_false] at among
  rcases among with rfl | rfl | rfl | rfl
  · cases asked
  · obtain rfl : name = "rowspan" := (Option.some.inj asked).symm.trans (by decide)
    exact Option.some.inj (leads.symm.trans leads') ▸ asks
  · cases asks
  · obtain rfl : name = "rowspan" := (Option.some.inj asked).symm.trans (by decide)
    rw [← Option.some.inj (leads.symm.trans leads'), asks_iff, two]
    exact ⟨rfl, (asks_iff.mp asks).2⟩

theorem matches_agreeingParts :
    IsPlain "TD" ∧ (∀ part ∈ agreeingParts, part.IsPlain) ∧
    ∃ s, parse "TD.x[ROWSPAN='2'][id][rowspan= 2 ]" = .ok s ∧
      s.matchesNode (.mk (.element ⟨.html, "td",
        [⟨.plain, "class", "y x"⟩, ⟨.plain, "rowspan", "2"⟩]⟩) []) = true := by
  have plainTag : IsPlain "TD" := by decide
  have plain : ∀ part ∈ agreeingParts, part.IsPlain := by decide
  have text : textOf "TD" agreeingParts = "TD.x[ROWSPAN='2'][id][rowspan= 2 ]" := by decide
  obtain ⟨readable, matching⟩ := matches_textOf plainTag plain
  obtain ⟨s, read⟩ := readable.mpr (by decide)
  have all := (matching s read).2.mpr (.inl agree_agreeingParts)
  refine ⟨plainTag, plain, s, text ▸ read, (all _ []).mpr ⟨.inr (by decide), ?_⟩⟩
  intro part among
  simp only [agreeingParts, List.mem_cons, List.not_mem_nil, or_false] at among
  rcases among with rfl | rfl | rfl | rfl
  · exact ⟨"y x", by decide, by decide⟩
  · exact ⟨"2", means_iff.mpr (by cbv), by decide⟩
  · trivial
  · exact ⟨"2", means_iff.mpr (by cbv), by decide⟩

/-- The second of two identifiers is lost: an element that has only the first is matched. -/
theorem matches_twoIdentifiers :
    let parts : List Part := [.identifier "x", .identifier "y"]
    let e : Element := ⟨.html, "a", [⟨.plain, "id", "x"⟩]⟩
    ∃ s, textOf "a" parts = "a#x#y" ∧ parse "a#x#y" = .ok s ∧
      s.matchesNode (.mk (.element e) []) = true ∧ ¬∀ part ∈ parts, part.Holds e := by
  intro parts e
  have text : textOf "a" parts = "a#x#y" := by decide
  have read := parse_of_named (by decide : IsPlain "a") (by decide : ∀ part ∈ parts, part.IsPlain)
    (by decide : ∀ part ∈ parts, part.name ≠ "")
  rw [text] at read
  refine ⟨_, text, read, by decide, fun all => ?_⟩
  have second : e.attribute? "id" = some "y" := all (.identifier "y") (by simp [parts])
  revert second
  decide

end Selector

end ApiReference.Html
