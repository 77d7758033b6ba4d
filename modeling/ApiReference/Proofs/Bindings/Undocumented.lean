import ApiReference.Proofs.Bindings.Declarations

/-!
Generated source without its documentation. Prose only ever makes whole lines of documentation, so
two catalogs that differ in their prose alone make the same code (`code_of_withoutProse`). That
holds whatever characters a reader takes for the end of a line, as long as they are white space:
prose is cut at all of that.
-/

namespace ApiReference

/-! ## Catalogs without prose -/

/-- A field without its description. -/
def Field.withoutProse (f : Field) : Field := { f with description := "" }

/-- A parameter without its description. -/
def Parameter.withoutProse (p : Parameter) : Parameter := { p with description := "" }

/-- A data type without its description and notes, and without those of its fields. -/
def DataType.withoutProse (t : DataType) : DataType :=
  { t with description := "", notes := "", fields := t.fields.map Field.withoutProse }

/-- An operation without its description and notes, and without those of its parameters. -/
def Operation.withoutProse (o : Operation) : Operation :=
  { o with description := "", notes := "", parameters := o.parameters.map Parameter.withoutProse }

/-- A catalog without the descriptions and notes in it. -/
def Catalog.withoutProse (c : Catalog) : Catalog :=
  ⟨c.types.map DataType.withoutProse, c.operations.map Operation.withoutProse⟩

/-! ## Lines with their ends -/

namespace Text

/-- What a reader takes for the ends of lines: line feeds, and perhaps other white space that is not
the space. -/
structure LineEnds where
  ends : Char → Bool
  feed : ends '\n' = true
  blank : ∀ c, ends c = true → isBlank c = true
  space : ends ' ' = false

/-- Line feeds alone. -/
def LineEnds.feeds : LineEnds where
  ends c := c == '\n'
  feed := rfl
  blank c h := by rw [beq_iff_eq.mp h]; rfl
  space := rfl

/-- The lines of a text, each together with its end. -/
def endedLines (ends : Char → Bool) : List Char → List (List Char)
  | [] => []
  | c :: cs =>
    if ends c then [c] :: endedLines ends cs
    else match endedLines ends cs with
      | [] => [[c]]
      | line :: rest => (c :: line) :: rest

variable {ends : Char → Bool}

/-- The lines make up the text. -/
theorem flatten_endedLines (cs : List Char) : (endedLines ends cs).flatten = cs := by
  induction cs with
  | nil => rfl
  | cons c cs ih =>
    rw [endedLines]
    split
    · rw [List.flatten_cons, ih]
      rfl
    · split
      · rename_i none
        rw [none] at ih
        rw [← ih]
        rfl
      · rename_i line rest lines
        rw [lines] at ih
        rw [← ih]
        rfl

theorem endedLines_ne_nil {cs : List Char} (h : cs ≠ []) : endedLines ends cs ≠ [] := by
  intro none
  have whole : (endedLines ends cs).flatten = cs := flatten_endedLines cs
  rw [none] at whole
  exact h whole.symm

/-- What follows the end of a line is lines of its own. -/
theorem endedLines_append {c : Char} (isEnd : ends c = true) (cs ds : List Char) :
    endedLines ends (cs ++ c :: ds) = endedLines ends (cs ++ [c]) ++ endedLines ends ds := by
  induction cs with
  | nil => simp [endedLines, isEnd]
  | cons d cs ih =>
    rw [List.cons_append, List.cons_append, endedLines, endedLines, ih]
    split
    · rfl
    · have some : endedLines ends (cs ++ [c]) ≠ [] := endedLines_ne_nil (by simp)
      obtain ⟨line, rest, lines⟩ := List.exists_cons_of_ne_nil some
      rw [lines]
      rfl

/-- A text with nothing but an end at its end is one line. -/
theorem endedLines_of_forall {c : Char} (isEnd : ends c = true) {cs : List Char}
    (inside : ∀ d ∈ cs, ends d = false) : endedLines ends (cs ++ [c]) = [cs ++ [c]] := by
  induction cs with
  | nil => simp [endedLines, isEnd]
  | cons d cs ih =>
    obtain ⟨first, later⟩ := List.forall_mem_cons.mp inside
    rw [List.cons_append, endedLines, first, ih later]
    rfl

end Text

namespace Bindings

open Text (LineEnds endedLines)

/-! ## Code -/

/-- Whether a line is one of documentation: the marks of that come first, apart from spaces. -/
def isDocumentation (line : List Char) : Bool :=
  "///".toList.isPrefixOf (line.dropWhile (· == ' '))

theorem isDocumentation_append {indent line : String} (spaces : ∀ c ∈ indent.toList, c = ' ')
    (h : Doc.IsDocumentation indent line) (after : List Char) :
    isDocumentation (line.toList ++ after) = true := by
  obtain ⟨text, whole, -⟩ := h
  have dropped : ∀ c ∈ indent.toList, (c == ' ') = true := fun c hc => by simp [spaces c hc]
  rw [isDocumentation, whole, List.append_assoc, List.append_assoc,
    List.dropWhile_append_of_pos dropped]
  rfl

/-- The lines of a text that are not documentation. -/
def codeLines (e : LineEnds) (cs : List Char) : List (List Char) :=
  (endedLines e.ends cs).filter fun line => !isDocumentation line

/-- A text without its lines of documentation. -/
def withoutDocumentation (e : LineEnds) (source : String) : String :=
  String.ofList (codeLines e source.toList).flatten

/-- The lines of code in source. -/
def code (e : LineEnds) (lines : List String) : List (List Char) :=
  codeLines e (sourceText lines).toList

section Code

variable {e : LineEnds}

theorem code_cons (line : String) (rest : List String) :
    code e (line :: rest) = codeLines e (line.toList ++ ['\n']) ++ code e rest := by
  rw [code, sourceText_cons, codeLines, Text.endedLines_append e.feed, List.filter_append]
  rfl

theorem code_append (first second : List String) :
    code e (first ++ second) = code e first ++ code e second := by
  induction first with
  | nil => rfl
  | cons line rest ih => rw [List.cons_append, code_cons, code_cons, ih, List.append_assoc]

theorem code_flatMap {α : Type} (lines : α → List String) (xs : List α) :
    code e (xs.flatMap lines) = xs.flatMap fun x => code e (lines x) := by
  induction xs with
  | nil => rfl
  | cons x xs ih => rw [List.flatMap_cons, List.flatMap_cons, code_append, ih]

/-- Whatever its words, a line of documentation is no code, and neither is a part of it. -/
theorem codeLines_documentation {indent line : String} (spaces : ∀ c ∈ indent.toList, c = ' ')
    (h : Doc.IsDocumentation indent line) : codeLines e (line.toList ++ ['\n']) = [] := by
  have inside : ∀ c ∈ line.toList, e.ends c = false := by
    obtain ⟨text, whole, plain⟩ := h
    intro c hc
    rw [whole, List.mem_append, List.mem_append] at hc
    by_contra isEnd
    have blank := e.blank c (by simpa using isEnd)
    have noSpace : c ≠ ' ' := by
      rintro rfl
      exact isEnd e.space
    rcases hc with (before | marks) | after
    · exact noSpace (spaces c before)
    · have visible : "///".toList.all (fun c => !Text.isBlank c) = true := by decide
      simpa [blank] using List.all_eq_true.mp visible c marks
    · rcases plain c after with space | visible
      · exact noSpace space
      · rw [blank] at visible
        cases visible
  rw [codeLines, Text.endedLines_of_forall e.feed inside, List.filter_singleton,
    isDocumentation_append spaces h]
  rfl

theorem code_documentation {indent : String} (spaces : ∀ c ∈ indent.toList, c = ' ')
    {lines : List String} (h : ∀ line ∈ lines, Doc.IsDocumentation indent line) :
    code e lines = [] := by
  induction lines with
  | nil => rfl
  | cons line rest ih =>
    obtain ⟨first, later⟩ := List.forall_mem_cons.mp h
    rw [code_cons, codeLines_documentation spaces first, ih later]
    rfl

theorem eq_space_of_mem_memberIndent {c : Char} (h : c ∈ memberIndent.toList) : c = ' ' := by
  simpa [memberIndent] using h

theorem code_comment (text : String) : code e (Doc.comment text memberIndent) = [] :=
  code_documentation (fun _ => eq_space_of_mem_memberIndent) fun _ =>
    Doc.isDocumentation_of_mem_comment

theorem code_entry (description notes : String) {indent : String}
    (spaces : ∀ c ∈ indent.toList, c = ' ') : code e (Doc.entry description notes indent) = [] :=
  code_documentation spaces fun _ => Doc.isDocumentation_of_mem_entry

/-! ## Prose makes no code -/

theorem code_fieldMember (f : Field) :
    code e (fieldMember f.withoutProse) = code e (fieldMember f) := by
  rw [fieldMember, fieldMember, code_append, code_append, code_comment, code_comment]
  rfl

theorem code_parameterMember (p : Parameter) :
    code e (parameterMember p.withoutProse) = code e (parameterMember p) := by
  rw [parameterMember, parameterMember, code_append, code_append, code_comment, code_comment]
  rfl

theorem code_dataStruct (t : DataType) :
    code e (dataStruct t.withoutProse) = code e (dataStruct t) := by
  have noIndent : ∀ c ∈ "".toList, c = ' ' := by simp
  have members : code e (t.withoutProse.fields.flatMap fieldMember) =
      code e (t.fields.flatMap fieldMember) := by
    rw [DataType.withoutProse, List.flatMap_map, code_flatMap, code_flatMap]
    exact List.flatMap_congr fun f _ => code_fieldMember f
  have name : t.withoutProse.name = t.name := rfl
  simp only [dataStruct, code_append, code_entry _ _ noIndent, members, name]

theorem code_requestStruct (o : Operation) :
    code e (requestStruct o.withoutProse) = code e (requestStruct o) := by
  have members : code e (o.withoutProse.parameters.flatMap parameterMember) =
      code e (o.parameters.flatMap parameterMember) := by
    rw [Operation.withoutProse, List.flatMap_map, code_flatMap, code_flatMap]
    exact List.flatMap_congr fun p _ => code_parameterMember p
  have name : o.withoutProse.name = o.name := rfl
  simp only [requestStruct, code_append, members, name]

theorem code_method (errorType : String) (o : Operation) :
    code e (method errorType o.withoutProse) = code e (method errorType o) := by
  have name : o.withoutProse.name = o.name := rfl
  have returns : o.withoutProse.returns = o.returns := rfl
  have parameters : o.withoutProse.parameters.isEmpty = o.parameters.isEmpty := by
    simp [Operation.withoutProse]
  unfold method
  simp only [code_append, code_entry _ _ fun _ => eq_space_of_mem_memberIndent, name, returns,
    parameters]

theorem code_methods (errorType : String) (operations : List Operation) :
    code e (methods errorType (operations.map Operation.withoutProse)) =
      code e (methods errorType operations) := by
  fun_induction methods errorType operations with
  | case1 => rfl
  | case2 o => exact code_method errorType o
  | case3 o p rest ih =>
    rw [List.map_cons, List.map_cons, methods, ← List.map_cons, code_append, code_append,
      code_cons, code_cons, code_method, ih]

theorem code_models (types : List DataType) :
    withoutDocumentation e (models (types.map DataType.withoutProse)) =
      withoutDocumentation e (models types) := by
  have structures : code e ((types.map DataType.withoutProse).flatMap fun t => "" :: dataStruct t) =
      code e (types.flatMap fun t => "" :: dataStruct t) := by
    rw [List.flatMap_map, code_flatMap, code_flatMap]
    refine List.flatMap_congr fun t _ => ?_
    rw [code_cons, code_cons, code_dataStruct]
  rw [withoutDocumentation, withoutDocumentation, models, models, ← code, ← code, code_append,
    code_append, structures]

theorem code_client (s : OutputSettings) (operations : List Operation) :
    withoutDocumentation e (client s (operations.map Operation.withoutProse)) =
      withoutDocumentation e (client s operations) := by
  have parameters : (fun o : Operation => !o.withoutProse.parameters.isEmpty) =
      fun o => !o.parameters.isEmpty := by
    funext o
    simp [Operation.withoutProse]
  have structures : code e (requests (operations.map Operation.withoutProse)) =
      code e (requests operations) := by
    rw [requests, requests, withRequest, withRequest, List.filter_map, List.flatMap_map,
      code_flatMap, code_flatMap, Function.comp_def, parameters]
    refine List.flatMap_congr fun o _ => ?_
    rw [code_cons, code_cons, code_requestStruct]
  rw [withoutDocumentation, withoutDocumentation, client_eq, client_eq, ← code, ← code, clientLines,
    clientLines]
  simp only [code_append, structures, code_methods]

end Code

/-- Prose makes no code: if two catalogs are the same but for their descriptions and notes, their
data models are the same text without the lines of documentation, and so are their bindings. -/
theorem code_of_withoutProse {c d : Catalog} (same : c.withoutProse = d.withoutProse)
    (e : LineEnds) (s : OutputSettings) :
    withoutDocumentation e (models c.types) = withoutDocumentation e (models d.types) ∧
      withoutDocumentation e (client s c.operations) =
        withoutDocumentation e (client s d.operations) := by
  rw [Catalog.withoutProse, Catalog.withoutProse, Catalog.mk.injEq] at same
  rw [← code_models c.types, ← code_client s c.operations, same.1, same.2, code_models, code_client]
  exact ⟨rfl, rfl⟩

/-- A data type with a field and an operation with a parameter, all with the same prose. -/
def explained (prose : String) : Catalog where
  types := [⟨"Node", prose, prose, [⟨"next", .named "Node", true, prose⟩]⟩]
  operations := [⟨"getNode", prose, prose, [⟨"id", .scalar .int64, true, prose⟩], .named "Node"⟩]

/-- Prose that ends its lines in four ways and goes on like source. -/
def likeSource : String := "a\n\x7d\rpub struct B;\x85/// c\u2028\n\nfn f()"

theorem code_of_likeSource :
    (explained likeSource).withoutProse = (explained "").withoutProse ∧
      withoutDocumentation .feeds (models (explained likeSource).types) =
        withoutDocumentation .feeds (models (explained "").types) ∧
      withoutDocumentation .feeds (client {} (explained likeSource).operations) =
        withoutDocumentation .feeds (client {} (explained "").operations) := by
  have same : (explained likeSource).withoutProse = (explained "").withoutProse := rfl
  exact ⟨same, code_of_withoutProse same .feeds {}⟩

end Bindings

end ApiReference
