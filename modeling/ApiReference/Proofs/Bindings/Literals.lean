import ApiReference.Proofs.Bindings.Declarations
import ApiReference.Proofs.Bindings.StringLiteral

/-!
The string literals of generated source. Each member has the literal of its name in the wire format
and each method that of its operation, between quotes as the names are, so a literal is read as its
name just if that is plain (`literals_read_iff`).
-/

namespace ApiReference.Bindings

open StringLiteral (denoted? Plain denoted?_eq_self_iff)

/-! ## Literals behind marks -/

/-- What stands before the name of a member in the wire format. -/
def renameMark : String := "    #[serde(rename = \""

/-- What stands before the name of the operation that a method performs. -/
def performMark : String := "        self.perform(\""

/-- What the literals denote that stand behind a mark at the start of a line, each read on into the
lines after it. -/
def literalsBehind (mark : String) : List String → List (Option String)
  | [] => []
  | line :: rest =>
    match Text.dropPrefix? mark.toList line.toList with
    | some literal =>
      denoted? (literal ++ '\n' :: (sourceText rest).toList) :: literalsBehind mark rest
    | none => literalsBehind mark rest

/-- Whether a literal is one for a name, whatever follows that. -/
def IsLiteralOf (literal : Option String) (name : String) : Prop :=
  ∃ tail, literal = denoted? (name.toList ++ '"' :: tail)

/-- Whether lines hold literals for names behind a mark, in their order and no others. -/
def Spells (mark : String) (lines names : List String) : Prop :=
  ∀ rest, ∃ literals, literalsBehind mark (lines ++ rest) = literals ++ literalsBehind mark rest ∧
    List.Forall₂ IsLiteralOf literals names

variable {mark : String}

theorem Spells.append {lines lines' names names' : List String} (first : Spells mark lines names)
    (second : Spells mark lines' names') : Spells mark (lines ++ lines') (names ++ names') := by
  intro rest
  obtain ⟨literals, read, each⟩ := first (lines' ++ rest)
  obtain ⟨literals', read', each'⟩ := second rest
  refine ⟨literals ++ literals', ?_, List.rel_append each each'⟩
  rw [List.append_assoc, read, read', List.append_assoc]

theorem spells_nil : Spells mark [] [] := fun _ => ⟨[], rfl, .nil⟩

/-- A line with the mark holds one literal. -/
theorem spells_marked (name text : String) : Spells mark [mark ++ (name ++ ("\"" ++ text))] [name] := by
  intro rest
  have behind : Text.dropPrefix? mark.toList (mark ++ (name ++ ("\"" ++ text))).toList =
      some (name.toList ++ '"' :: text.toList) := by
    rw [String.toList_append, Text.dropPrefix?_append]
    simp
  refine ⟨[_], ?_, .cons ⟨text.toList ++ '\n' :: (sourceText rest).toList, rfl⟩ .nil⟩
  rw [List.singleton_append, literalsBehind, behind]
  simp

/-- Lines without the mark hold none. -/
theorem spells_silent {lines : List String}
    (silent : ∀ line ∈ lines, ¬mark.toList <+: line.toList) : Spells mark lines [] := by
  induction lines with
  | nil => exact spells_nil
  | cons line lines ih =>
    obtain ⟨first, later⟩ := List.forall_mem_cons.mp silent
    intro rest
    obtain ⟨literals, read, each⟩ := ih later rest
    refine ⟨literals, ?_, each⟩
    have none : Text.dropPrefix? mark.toList line.toList = none := by
      rw [Text.dropPrefix?, if_neg (by rwa [List.isPrefixOf_iff_prefix])]
    rw [List.cons_append, literalsBehind, none, read]

/-- Lines without the mark around others change nothing. -/
theorem Spells.between {before lines after names : List String} (h : Spells mark lines names)
    (above : ∀ line ∈ before, ¬mark.toList <+: line.toList)
    (below : ∀ line ∈ after, ¬mark.toList <+: line.toList) :
    Spells mark (before ++ (lines ++ after)) names := by
  have whole := (spells_silent above).append (h.append (spells_silent below))
  rwa [List.append_nil, List.nil_append] at whole

theorem spells_flatMap {α : Type} {lines names : α → List String} {xs : List α}
    (each : ∀ x ∈ xs, Spells mark (lines x) (names x)) :
    Spells mark (xs.flatMap lines) (xs.flatMap names) := by
  induction xs with
  | nil => exact spells_nil
  | cons x xs ih =>
    obtain ⟨first, later⟩ := List.forall_mem_cons.mp each
    exact first.append (ih later)

/-! ## Members -/

/-- A mark of generated source, which comments do not start with. -/
structure IsMark (mark : String) : Prop where
  outer : ∀ text, ¬mark.toList <+: '/' :: text
  inner : ∀ text, ¬mark.toList <+: memberIndent.toList ++ '/' :: text

theorem isMark_rename : IsMark renameMark := by
  constructor <;> intro text <;> simp [renameMark, memberIndent]

theorem isMark_perform : IsMark performMark := by
  constructor <;> intro text <;> simp [performMark, memberIndent]

theorem IsMark.silent_comment (h : IsMark mark) (text : String) :
    ∀ line ∈ Doc.comment text memberIndent, ¬mark.toList <+: line.toList := by
  intro line hl
  obtain ⟨behind, whole, -⟩ := Doc.isComment_of_mem_comment hl
  rw [whole]
  exact h.inner behind

theorem IsMark.silent_entry (h : IsMark mark) (description notes : String) :
    ∀ line ∈ Doc.entry description notes memberIndent, ¬mark.toList <+: line.toList := by
  intro line hl
  obtain ⟨behind, whole, -⟩ := Doc.isComment_of_mem_entry hl
  rw [whole]
  exact h.inner behind

theorem IsMark.silent_outer (h : IsMark mark) (description notes : String) :
    ∀ line ∈ Doc.entry description notes "", ¬mark.toList <+: line.toList := by
  intro line hl
  obtain ⟨behind, whole, -⟩ := Doc.isComment_of_mem_entry hl
  rw [whole]
  exact h.outer behind

/-- The attribute of a member holds the literal of its name. -/
theorem spells_member (wire : String) (type : WireType) (optional : Bool) :
    Spells renameMark (member wire type optional) [wire] := by
  have silent (text : String) : ∀ line ∈ [memberIndent ++ ("pub " ++ text)],
      ¬renameMark.toList <+: line.toList := by
    simp [renameMark, memberIndent]
  have required : memberIndent ++ "#[serde(rename = \"" ++ wire ++ "\")]" =
      renameMark ++ (wire ++ ("\"" ++ ")]")) := by
    simp [← String.toList_inj, renameMark, memberIndent]
  have optional' : memberIndent ++ "#[serde(rename = \"" ++ wire ++
        "\", default, skip_serializing_if = \"Option::is_none\")]" =
      renameMark ++
        (wire ++ ("\"" ++ ", default, skip_serializing_if = \"Option::is_none\")]")) := by
    simp [← String.toList_inj, renameMark, memberIndent]
  unfold member
  dsimp only
  split
  · rw [optional']
    simp only [String.append_assoc]
    exact (spells_marked wire _).append (spells_silent (silent _))
  · rw [required]
    simp only [String.append_assoc]
    exact (spells_marked wire _).append (spells_silent (silent _))

theorem silent_member (wire : String) (type : WireType) (optional : Bool) :
    ∀ line ∈ member wire type optional, ¬performMark.toList <+: line.toList := by
  unfold member
  dsimp only
  split <;> simp [performMark, memberIndent]

section Documented

variable {α : Type} {made : α → List String} {wire : α → String} {type : α → WireType}

theorem spells_documented (h : Documents made wire type) (xs : List α) :
    Spells renameMark (xs.flatMap made) (xs.map wire) := by
  rw [← List.flatMap_pure_eq_map]
  apply spells_flatMap
  intro x _
  obtain ⟨description, optional, lines⟩ := h x
  rw [lines]
  exact (spells_silent (isMark_rename.silent_comment description)).append
    (spells_member (wire x) (type x) optional)

theorem silent_documented (h : Documents made wire type) (xs : List α) :
    ∀ line ∈ xs.flatMap made, ¬performMark.toList <+: line.toList := by
  intro line hl
  obtain ⟨x, _, among⟩ := List.mem_flatMap.mp hl
  obtain ⟨description, optional, lines⟩ := h x
  rw [lines, List.mem_append] at among
  rcases among with comment | written
  · exact isMark_perform.silent_comment description line comment
  · exact silent_member _ _ _ line written

end Documented

/-! ## Structures and methods -/

theorem spells_dataStruct (t : DataType) :
    Spells renameMark ("" :: dataStruct t) (t.fields.map Field.name) := by
  have lines : "" :: dataStruct t =
      ("" :: Doc.entry t.description t.notes "" ++
          ["#[derive(Debug, Clone, Serialize, Deserialize)]", "pub struct " ++ t.name ++ " \x7b"]) ++
        (t.fields.flatMap fieldMember ++ ["\x7d"]) := by
    simp [dataStruct]
  rw [lines]
  apply (spells_documented documents_field t.fields).between
  · intro line hl
    simp only [List.cons_append, List.mem_cons, List.mem_append, List.not_mem_nil, or_false] at hl
    rcases hl with rfl | comment | rfl | rfl
    · simp [renameMark]
    · exact isMark_rename.silent_outer _ _ line comment
    · simp [renameMark]
    · simp [renameMark]
  · simp [renameMark]

theorem spells_requestStruct (o : Operation) :
    Spells renameMark ("" :: requestStruct o) (o.parameters.map Parameter.name) := by
  have lines : "" :: requestStruct o =
      ["", "/// Parameters of \x60" ++ o.name ++ "\x60.", "#[derive(Debug, Clone, Serialize)]",
          "pub struct " ++ Identifier.request o.name ++ " \x7b"] ++
        (o.parameters.flatMap parameterMember ++ ["\x7d"]) := by
    simp [requestStruct]
  rw [lines]
  apply (spells_documented documents_parameter o.parameters).between
  · simp [renameMark]
  · simp [renameMark]

theorem silent_requestStruct (o : Operation) :
    ∀ line ∈ requestStruct o, ¬performMark.toList <+: line.toList := by
  intro line hl
  simp only [requestStruct, List.mem_append, List.mem_cons, List.not_mem_nil, or_false] at hl
  rcases hl with ((rfl | rfl | rfl) | written) | rfl
  · simp [performMark]
  · simp [performMark]
  · simp [performMark]
  · exact silent_documented documents_parameter _ line written
  · simp [performMark]

/-- The lines of a method: its documentation, the line that opens it, its call and its end. -/
theorem method_eq (errorType : String) (o : Operation) :
    ∃ signature text, method errorType o =
      (Doc.entry o.description o.notes memberIndent ++ [memberIndent ++ ("pub " ++ signature)]) ++
        ([performMark ++ (o.name ++ ("\"" ++ text))] ++ [memberIndent ++ "\x7d"]) := by
  have call (text : String) : "        self.perform(\"" ++ o.name ++ "\", " ++ text =
      performMark ++ (o.name ++ ("\"" ++ (", " ++ text))) := by
    simp [← String.toList_inj, performMark]
  unfold method
  dsimp only
  split
  · refine ⟨"async fn " ++ Identifier.method o.name ++ "(&self) -> " ++ ("Result<" ++
      o.returns.rustValue ++ ", " ++ errorType ++ "> \x7b"), ", " ++ "None::<&()>).await", ?_⟩
    rw [← call]
    simp [← String.toList_inj]
  · refine ⟨"async fn " ++ Identifier.method o.name ++ "(&self, request: &" ++
      Identifier.request o.name ++ ") -> " ++ ("Result<" ++ o.returns.rustValue ++ ", " ++
        errorType ++ "> \x7b"), ", " ++ "Some(request)).await", ?_⟩
    rw [← call]
    simp [← String.toList_inj]

/-- A method calls its operation by the literal of its name. -/
theorem spells_method (errorType : String) (o : Operation) :
    Spells performMark (method errorType o) [o.name] := by
  obtain ⟨signature, text, lines⟩ := method_eq errorType o
  rw [lines]
  apply (spells_marked o.name text).between
  · intro line hl
    rcases List.mem_append.mp hl with comment | opening
    · exact isMark_perform.silent_entry _ _ line comment
    · rw [List.mem_singleton.mp opening]
      simp [performMark, memberIndent]
  · simp [performMark, memberIndent]

theorem silent_method (errorType : String) (o : Operation) :
    ∀ line ∈ method errorType o, ¬renameMark.toList <+: line.toList := by
  obtain ⟨signature, text, lines⟩ := method_eq errorType o
  rw [lines]
  intro line hl
  rcases List.mem_append.mp hl with before | after
  · rcases List.mem_append.mp before with comment | opening
    · exact isMark_rename.silent_entry _ _ line comment
    · rw [List.mem_singleton.mp opening]
      simp [renameMark, memberIndent]
  · simp only [List.mem_append, List.mem_singleton] at after
    rcases after with rfl | rfl
    · simp [renameMark, performMark]
    · simp [renameMark, memberIndent]

theorem spells_methods (errorType : String) (operations : List Operation) :
    Spells performMark (methods errorType operations) (operations.map Operation.name) := by
  fun_induction methods errorType operations with
  | case1 => exact spells_nil
  | case2 o => exact spells_method errorType o
  | case3 o p rest ih =>
    have blank : Spells performMark [""] [] := spells_silent (by simp [performMark])
    exact (spells_method errorType o).append (blank.append ih)

/-! ## The files -/

/-- The first lines of the data model. -/
def preamble : List String :=
  [header, "#![allow(non_snake_case)]", "", "use serde::\x7bDeserialize, Serialize\x7d;"]

/-- The lines of the data model. -/
def modelLines (types : List DataType) : List String :=
  preamble ++ types.flatMap fun t => "" :: dataStruct t

theorem models_eq (types : List DataType) : models types = sourceText (modelLines types) := rfl

theorem spells_modelLines (types : List DataType) :
    Spells renameMark (modelLines types) (types.flatMap fun t => t.fields.map Field.name) := by
  have opening : Spells renameMark preamble [] :=
    spells_silent (by simp [preamble, renameMark, header])
  exact opening.append (spells_flatMap fun t _ => spells_dataStruct t)

/-- The operations without parameters have none to name. -/
theorem flatMap_withRequest (operations : List Operation) :
    ((withRequest operations).flatMap fun o => o.parameters.map Parameter.name) =
      operations.flatMap fun o => o.parameters.map Parameter.name := by
  induction operations with
  | nil => rfl
  | cons o operations ih =>
    unfold withRequest at ih ⊢
    rw [List.filter_cons, List.flatMap_cons]
    split
    · rw [List.flatMap_cons, ih]
    · rename_i none
      have empty : o.parameters = [] := by simpa using none
      rw [ih, empty, List.map_nil, List.nil_append]

theorem spells_clientLines (s : OutputSettings) (operations : List Operation) :
    Spells renameMark (clientLines s operations)
      (operations.flatMap fun o => o.parameters.map Parameter.name) := by
  rw [← flatMap_withRequest, clientLines, List.append_assoc, List.append_assoc, List.append_assoc]
  have members : Spells renameMark (requests operations)
      ((withRequest operations).flatMap fun o => o.parameters.map Parameter.name) :=
    spells_flatMap fun o _ => spells_requestStruct o
  apply members.between
  · simp [imports, renameMark, header]
  · intro line hl
    simp only [List.mem_append, List.mem_cons, List.not_mem_nil, or_false] at hl
    rcases hl with (rfl | rfl) | called | rfl
    · simp [renameMark]
    · simp [renameMark, opening]
    · refine forall_mem_methods (P := fun line => ¬renameMark.toList <+: line.toList) ?_
        (fun o _ => silent_method s.errorType o) line called
      simp [renameMark]
    · simp [renameMark]

theorem calls_clientLines (s : OutputSettings) (operations : List Operation) :
    Spells performMark (clientLines s operations) (operations.map Operation.name) := by
  rw [clientLines, List.append_assoc]
  apply (spells_methods s.errorType operations).between
  · intro line hl
    simp only [List.mem_append, List.mem_cons, List.not_mem_nil, or_false] at hl
    rcases hl with (first | request) | rfl | rfl
    · revert line
      simp [imports, performMark, header]
    · obtain ⟨o, _, among⟩ := List.mem_flatMap.mp request
      rcases List.mem_cons.mp among with rfl | inside
      · simp [performMark]
      · exact silent_requestStruct o line inside
    · simp [performMark]
    · simp [performMark, opening]
  · simp [performMark]

/-! ## What the literals denote -/

theorem IsLiteralOf.denotes_iff {literal : Option String} {name : String}
    (h : IsLiteralOf literal name) : literal = some name ↔ Plain name.toList := by
  obtain ⟨tail, rfl⟩ := h
  exact denoted?_eq_self_iff name tail

theorem Spells.denote_iff {lines names : List String} (h : Spells mark lines names) :
    List.Forall₂ (fun literal name => literal = some name ↔ Plain name.toList)
      (literalsBehind mark lines) names := by
  obtain ⟨literals, read, each⟩ := h []
  rw [List.append_nil, literalsBehind, List.append_nil] at read
  rw [read]
  exact each.imp fun _ _ => IsLiteralOf.denotes_iff

/-- **Literals of names.** The data model has one literal behind the mark of a renamed member for each
field, and the bindings have one for each parameter and one behind the mark of a call for each
operation, all in their order. Each denotes the name it was made for just if that is plain. -/
theorem literals_read_iff (s : OutputSettings) (c : Catalog) :
    (models c.types = sourceText (modelLines c.types) ∧
      client s c.operations = sourceText (clientLines s c.operations)) ∧
    List.Forall₂ (fun literal name => literal = some name ↔ Plain name.toList)
      (literalsBehind renameMark (modelLines c.types))
      (c.types.flatMap fun t => t.fields.map Field.name) ∧
    List.Forall₂ (fun literal name => literal = some name ↔ Plain name.toList)
      (literalsBehind renameMark (clientLines s c.operations))
      (c.operations.flatMap fun o => o.parameters.map Parameter.name) ∧
    List.Forall₂ (fun literal name => literal = some name ↔ Plain name.toList)
      (literalsBehind performMark (clientLines s c.operations))
      (c.operations.map Operation.name) :=
  ⟨⟨models_eq c.types, client_eq s c.operations⟩, (spells_modelLines c.types).denote_iff,
    (spells_clientLines s c.operations).denote_iff, (calls_clientLines s c.operations).denote_iff⟩

/-- A data type with one field, which has a quote in its name. -/
def quotedMember : DataType := ⟨"A", "", "", [⟨"a\"b", .scalar .string, false, ""⟩]⟩

/-- A name with a quote in it is read as what comes before the quote. -/
theorem literal_ends_early :
    quotedMember.fields.map Field.name = ["a\"b"] ∧
      literalsBehind renameMark (modelLines [quotedMember]) = [some "a"] := by
  decide

end ApiReference.Bindings
