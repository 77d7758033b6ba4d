import ApiReference.Proofs.Bindings.Doc
import ApiReference.Proofs.Bindings.Identifier
import ApiReference.Proofs.Bindings.Source
import ApiReference.Proofs.Bindings.TypeNames
import ApiReference.Proofs.Catalog.RoundTrip

/-!
Declarations read back from generated source. A structure opens with a line of its own and has its
members on the lines before the one that closes it; a method opens with a line after the one that
opens the methods. Read so, the source of a catalog declares what the catalog lists, as long as its
names stay on a line and do not end early (`structuresOf_models`, `declared_client`).
-/

namespace ApiReference

namespace Bindings

/-! ## Reading source -/

/-- The lines of source. -/
def linesOf (source : String) : List String :=
  (Text.split (· == '\n') source.toList).map String.ofList

/-- A structure that source declares, with the identifiers of its members. -/
structure Declared where
  name : String
  members : List String
  deriving DecidableEq

/-- The name of the structure that a line opens. -/
def structName? (line : String) : Option String :=
  ((Text.dropPrefix? "pub struct ".toList line.toList).bind
    (Text.dropSuffix? " \x7b".toList)).map String.ofList

/-- The name that follows the start of a line, up to a character that ends it. -/
def nameAfter? (start : String) (stop : Char) (line : String) : Option String :=
  (Text.dropPrefix? start.toList line.toList).map fun rest =>
    String.ofList (rest.takeWhile (· != stop))

/-- The identifier of the member on a line. -/
def memberName? : String → Option String := nameAfter? "    pub " ':'

/-- The identifier of the method that a line opens. -/
def methodName? : String → Option String := nameAfter? "    pub async fn " '('

/-- Whether a line opens the methods of a type. -/
def opensMethods (line : String) : Bool := "impl ".toList.isPrefixOf line.toList

/-- The structures that lines declare. -/
def structuresIn : List String → List Declared
  | [] => []
  | line :: rest =>
    match structName? line with
    | some name =>
      ⟨name, (rest.takeWhile (· != "\x7d")).filterMap memberName?⟩ :: structuresIn rest
    | none => structuresIn rest

/-- The methods that lines declare. -/
def methodsIn (lines : List String) : List String :=
  (lines.dropWhile fun line => !opensMethods line).filterMap methodName?

/-- The structures that source declares. -/
def structuresOf (source : String) : List Declared := structuresIn (linesOf source)

/-- The methods that source declares. -/
def methodsOf (source : String) : List String := methodsIn (linesOf source)

theorem linesOf_sourceText {lines : List String} (each : ∀ line ∈ lines, OneLine line) :
    linesOf (sourceText lines) = lines ++ [""] := by
  rw [linesOf, split_sourceText each, List.map_append, List.map_map]
  simp [Function.comp_def]

/-! ## Lines that declare nothing -/

/-- A line that starts with another character opens no structure. -/
theorem structName?_eq_none {line : String} (h : line.toList.head? ≠ some 'p') :
    structName? line = none := by
  have differs : ¬"pub struct ".toList.isPrefixOf line.toList = true := by
    intro starts
    obtain ⟨rest, whole⟩ := List.isPrefixOf_iff_prefix.mp starts
    exact h (by rw [← whole]; rfl)
  rw [structName?, Text.dropPrefix?, if_neg differs]
  rfl

theorem structName?_open (name : String) :
    structName? ("pub struct " ++ name ++ " \x7b") = some name := by
  rw [structName?, String.toList_append, String.toList_append, List.append_assoc,
    Text.dropPrefix?_append, Option.bind_some, Text.dropSuffix?_append]
  simp

/-- A line that starts a declaration names it up to the character that ends the name. -/
theorem nameAfter?_append {start name text : String} {stop : Char} (free : stop ∉ name.toList)
    (ends : text.toList.head? = some stop) :
    nameAfter? start stop (start ++ (name ++ text)) = some name := by
  obtain ⟨rest, whole⟩ := List.head?_eq_some_iff.mp ends
  have inside : ∀ c ∈ name.toList, (c != stop) = true := by
    intro c hc
    rw [bne_iff_ne]
    rintro rfl
    exact free hc
  rw [nameAfter?, String.toList_append, String.toList_append, Text.dropPrefix?_append,
    Option.map_some, whole, List.takeWhile_append_of_pos inside,
    List.takeWhile_cons_of_neg (by simp), List.append_nil, String.ofList_toList]

theorem structuresIn_append {before : List String}
    (inert : ∀ line ∈ before, line.toList.head? ≠ some 'p') (rest : List String) :
    structuresIn (before ++ rest) = structuresIn rest := by
  induction before with
  | nil => rfl
  | cons line before ih =>
    obtain ⟨first, later⟩ := List.forall_mem_cons.mp inert
    rw [List.cons_append, structuresIn, structName?_eq_none first]
    exact ih later

/-- Lines that stand inside a structure. -/
def Indented (line : String) : Prop := line.toList.head? = some ' '

/-- A structure with members is read as one with the identifiers of these. -/
theorem structuresIn_struct {before body : List String} (name : String)
    (inert : ∀ line ∈ before, line.toList.head? ≠ some 'p') (inside : ∀ line ∈ body, Indented line)
    (rest : List String) :
    structuresIn (before ++ ("pub struct " ++ name ++ " \x7b") :: (body ++ "\x7d" :: rest)) =
      ⟨name, body.filterMap memberName?⟩ :: structuresIn rest := by
  -- Indented lines neither close the structure nor open another one.
  have goesOn : ∀ line ∈ body, (line != "\x7d") = true := by
    intro line hl
    rw [bne_iff_ne]
    rintro rfl
    cases inside _ hl
  have opensNone : ∀ line ∈ body, line.toList.head? ≠ some 'p' := by
    intro line hl
    rw [inside line hl]
    decide
  rw [structuresIn_append inert, structuresIn, structName?_open]
  dsimp only
  rw [List.takeWhile_append_of_pos goesOn, List.takeWhile_cons_of_neg (by simp), List.append_nil,
    structuresIn_append opensNone, structuresIn, structName?_eq_none (by decide)]

/-! ## Members -/

theorem indented_of_isComment {line : String} (h : Doc.IsComment memberIndent line) :
    Indented line := by
  obtain ⟨text, whole, _⟩ := h
  rw [Indented, whole]
  rfl

theorem memberName?_of_isComment {line : String} (h : Doc.IsComment memberIndent line) :
    memberName? line = none := by
  obtain ⟨text, whole, _⟩ := h
  rw [memberName?, nameAfter?, whole]
  rfl

theorem memberName?_member {name text : String} (free : ':' ∉ name.toList)
    (ends : text.toList.head? = some ':') :
    memberName? (memberIndent ++ ("pub " ++ (name ++ text))) = some name := by
  have start : memberIndent ++ "pub " = "    pub " := by decide
  rw [← String.append_assoc, start]
  exact nameAfter?_append free ends

/-- An attribute names no member. -/
theorem memberName?_attribute (text : String) :
    memberName? (memberIndent ++ ("#[serde(rename = \"" ++ text)) = none := by
  rw [memberName?, nameAfter?, String.toList_append, String.toList_append]
  rfl

theorem free_field {wire : String} {c : Char} (visible : 0 < c.toNat) (low : c.toNat < 0x41)
    (plain : c ≠ '#') (free : c ∉ wire.toList) : c ∉ (Identifier.field wire).toList :=
  fun among => free (Identifier.mem_of_mem_field visible low plain among)

theorem filterMap_member {wire : String} (free : ':' ∉ wire.toList) (type : WireType)
    (optional : Bool) :
    (member wire type optional).filterMap memberName? = [Identifier.field wire] := by
  have named := free_field (by decide) (by decide) (by decide) free
  unfold member
  dsimp only
  split
  · simp only [String.append_assoc, List.filterMap_cons, List.filterMap_nil, memberName?_attribute]
    rw [memberName?_member named (by simp)]
  · simp only [String.append_assoc, List.filterMap_cons, List.filterMap_nil, memberName?_attribute]
    rw [memberName?_member named (by simp)]

theorem indented_member (wire : String) (type : WireType) (optional : Bool) :
    ∀ line ∈ member wire type optional, Indented line := by
  unfold member Indented
  dsimp only
  split <;> simp [memberIndent]

theorem oneLine_member {wire : String} {type : WireType} (optional : Bool) (named : OneLine wire)
    (written : OneLine type.rustMember) : ∀ line ∈ member wire type optional, OneLine line := by
  have field := free_field (by decide) (by decide) (by decide) named
  unfold OneLine at *
  unfold member
  dsimp only
  split <;> simp [memberIndent, named, written, field]

/-- The Rust types of one whose names stay on one line do so as well. -/
theorem oneLine_rustValue {named foreign : String → Prop} {t : WireType}
    (h : t.Orderly named foreign) (plain : ∀ n, named n → OneLine n) : OneLine t.rustValue := by
  induction h with
  | scalar kind => cases kind <;> decide
  | array _ ih =>
    unfold OneLine at *
    simpa [WireType.rustValue] using ih
  | named isNamed => exact plain _ isNamed
  | union | foreign => exact (by decide : OneLine "serde_json::Value")

theorem oneLine_rustMember {named foreign : String → Prop} {t : WireType}
    (h : t.Orderly named foreign) (plain : ∀ n, named n → OneLine n) : OneLine t.rustMember := by
  have value := oneLine_rustValue h plain
  cases h with
  | named isNamed =>
    have name := plain _ isNamed
    unfold OneLine at *
    simpa [WireType.rustMember] using name
  | scalar | array | union | foreign => exact value

theorem oneLine_of_isComment {indent line : String} (plain : OneLine indent)
    (h : Doc.IsComment indent line) : OneLine line := by
  obtain ⟨text, whole, oneLine⟩ := h
  rw [OneLine, whole, List.mem_append, List.mem_cons, not_or, not_or]
  exact ⟨plain, by decide, oneLine⟩

section Documented

variable {α : Type} {made : α → List String} {wire : α → String} {type : α → WireType}

/-- Whether each item makes a documented member with its name in the wire format and its type. -/
def Documents (made : α → List String) (wire : α → String) (type : α → WireType) : Prop :=
  ∀ x, ∃ description optional,
    made x = Doc.comment description memberIndent ++ member (wire x) (type x) optional

theorem filterMap_documented (h : Documents made wire type) {xs : List α}
    (free : ∀ x ∈ xs, ':' ∉ (wire x).toList) :
    (xs.flatMap made).filterMap memberName? = xs.map fun x => Identifier.field (wire x) := by
  rw [List.filterMap_flatMap, ← List.flatMap_pure_eq_map]
  refine List.flatMap_congr fun x hx => ?_
  obtain ⟨description, optional, lines⟩ := h x
  have none : (Doc.comment description memberIndent).filterMap memberName? = [] := by
    rw [List.filterMap_eq_nil_iff]
    exact fun line hl => memberName?_of_isComment (Doc.isComment_of_mem_comment hl)
  rw [lines, List.filterMap_append, none, filterMap_member (free x hx)]
  rfl

theorem indented_documented (h : Documents made wire type) (xs : List α) :
    ∀ line ∈ xs.flatMap made, Indented line := by
  intro line hl
  obtain ⟨x, _, among⟩ := List.mem_flatMap.mp hl
  obtain ⟨description, optional, lines⟩ := h x
  rw [lines, List.mem_append] at among
  rcases among with comment | member
  · exact indented_of_isComment (Doc.isComment_of_mem_comment comment)
  · exact indented_member _ _ _ line member

theorem oneLine_documented (h : Documents made wire type) {xs : List α}
    (named : ∀ x ∈ xs, OneLine (wire x)) (written : ∀ x ∈ xs, OneLine (type x).rustMember) :
    ∀ line ∈ xs.flatMap made, OneLine line := by
  intro line hl
  obtain ⟨x, hx, among⟩ := List.mem_flatMap.mp hl
  obtain ⟨description, optional, lines⟩ := h x
  rw [lines, List.mem_append] at among
  rcases among with comment | member
  · exact oneLine_of_isComment (by decide) (Doc.isComment_of_mem_comment comment)
  · exact oneLine_member optional (named x hx) (written x hx) line member

end Documented

/-- Whether the names of a data type can be read back from source: they stay on one line, and those
of the fields do not end early. -/
structure LegibleType (t : DataType) : Prop where
  name : OneLine t.name
  fields : ∀ f ∈ t.fields, OneLine f.name
  ends : ∀ f ∈ t.fields, ':' ∉ f.name.toList

/-- Whether the names of an operation can be read back from source: they stay on one line and do not
end early. -/
structure LegibleOperation (o : Operation) : Prop where
  name : OneLine o.name
  nameEnds : '(' ∉ o.name.toList
  parameters : ∀ p ∈ o.parameters, OneLine p.name
  ends : ∀ p ∈ o.parameters, ':' ∉ p.name.toList

/-- Whether the names that the settings give stay on one line. -/
structure LegibleSettings (s : OutputSettings) : Prop where
  modelsPath : OneLine s.modelsPath
  transportPath : OneLine s.transportPath
  clientType : OneLine s.clientType
  errorType : OneLine s.errorType

theorem documents_field : Documents fieldMember Field.name Field.type :=
  fun f => ⟨f.description, f.optional, rfl⟩

theorem documents_parameter : Documents parameterMember Parameter.name Parameter.type :=
  fun p => ⟨p.description, !p.required, rfl⟩

/-! ## Structures -/

/-- The structure for a data type, as it is declared. -/
def declaredType (t : DataType) : Declared :=
  ⟨t.name, t.fields.map fun f => Identifier.field f.name⟩

/-- The structure for the parameters of an operation, as it is declared. -/
def declaredRequest (o : Operation) : Declared :=
  ⟨Identifier.request o.name, o.parameters.map fun p => Identifier.field p.name⟩

theorem structuresIn_dataStruct {t : DataType} (free : ∀ f ∈ t.fields, ':' ∉ f.name.toList)
    (rest : List String) :
    structuresIn ("" :: dataStruct t ++ rest) = declaredType t :: structuresIn rest := by
  have lines : "" :: dataStruct t ++ rest =
      ("" :: Doc.entry t.description t.notes "" ++
          ["#[derive(Debug, Clone, Serialize, Deserialize)]"]) ++
        ("pub struct " ++ t.name ++ " \x7b") ::
          (t.fields.flatMap fieldMember ++ "\x7d" :: rest) := by
    simp [dataStruct]
  rw [lines, structuresIn_struct t.name _ (indented_documented documents_field _),
    filterMap_documented documents_field free]
  · rfl
  · intro line hl
    simp only [List.cons_append, List.mem_cons, List.mem_append, List.not_mem_nil, or_false] at hl
    rcases hl with rfl | comment | rfl
    · decide
    · obtain ⟨text, whole, _⟩ := Doc.isComment_of_mem_entry comment
      rw [whole]
      simp
    · decide

theorem structuresIn_requestStruct {o : Operation} (free : ∀ p ∈ o.parameters, ':' ∉ p.name.toList)
    (rest : List String) :
    structuresIn ("" :: requestStruct o ++ rest) = declaredRequest o :: structuresIn rest := by
  have lines : "" :: requestStruct o ++ rest =
      ["", "/// Parameters of \x60" ++ o.name ++ "\x60.", "#[derive(Debug, Clone, Serialize)]"] ++
        ("pub struct " ++ Identifier.request o.name ++ " \x7b") ::
          (o.parameters.flatMap parameterMember ++ "\x7d" :: rest) := by
    simp [requestStruct]
  rw [lines, structuresIn_struct _ _ (indented_documented documents_parameter _),
    filterMap_documented documents_parameter free]
  · rfl
  · simp

/-- Structures one after the other are read one after the other. -/
theorem structuresIn_flatMap {α : Type} {lines : α → List String} {declared : α → Declared}
    {xs : List α}
    (each : ∀ x ∈ xs, ∀ rest, structuresIn (lines x ++ rest) = declared x :: structuresIn rest)
    (rest : List String) :
    structuresIn (xs.flatMap lines ++ rest) = xs.map declared ++ structuresIn rest := by
  induction xs with
  | nil => rfl
  | cons x xs ih =>
    obtain ⟨first, later⟩ := List.forall_mem_cons.mp each
    rw [List.flatMap_cons, List.append_assoc, first, ih later, List.map_cons, List.cons_append]

theorem oneLine_dataStruct {t : DataType} (legible : LegibleType t)
    (written : ∀ w ∈ t.wireTypes, OneLine w.rustMember) : ∀ line ∈ dataStruct t, OneLine line := by
  have types : ∀ f ∈ t.fields, OneLine f.type.rustMember :=
    fun f hf => written f.type (List.mem_map_of_mem hf)
  have members := oneLine_documented documents_field legible.fields types
  intro line hl
  simp only [dataStruct, List.mem_append, List.mem_cons, List.not_mem_nil, or_false] at hl
  rcases hl with ((comment | rfl | rfl) | member) | rfl
  · exact oneLine_of_isComment (by decide) (Doc.isComment_of_mem_entry comment)
  · decide
  · have name := legible.name
    unfold OneLine at *
    simp [name]
  · exact members line member
  · decide

theorem oneLine_requestStruct {o : Operation} (legible : LegibleOperation o)
    (written : ∀ w ∈ o.wireTypes, OneLine w.rustMember) :
    ∀ line ∈ requestStruct o, OneLine line := by
  have types : ∀ p ∈ o.parameters, OneLine p.type.rustMember :=
    fun p hp => written p.type (List.mem_append_left _ (List.mem_map_of_mem hp))
  have members := oneLine_documented documents_parameter legible.parameters types
  have name := legible.name
  have request : OneLine (Identifier.request o.name) :=
    fun among => name (Identifier.mem_of_mem_request (by decide) (by decide) among)
  intro line hl
  simp only [requestStruct, List.mem_append, List.mem_cons, List.not_mem_nil, or_false] at hl
  rcases hl with ((rfl | rfl | rfl) | member) | rfl
  · unfold OneLine at *
    simp [name]
  · decide
  · unfold OneLine at *
    simp [request]
  · exact members line member
  · decide

/-- The data model declares a structure for each data type, in their order. -/
theorem structuresOf_models {types : List DataType} (legible : ∀ t ∈ types, LegibleType t)
    (written : ∀ t ∈ types, ∀ w ∈ t.wireTypes, OneLine w.rustMember) :
    structuresOf (models types) = types.map declaredType := by
  have each : ∀ t ∈ types, ∀ rest,
      structuresIn ("" :: dataStruct t ++ rest) = declaredType t :: structuresIn rest :=
    fun t ht => structuresIn_dataStruct (legible t ht).ends
  rw [structuresOf, models, linesOf_sourceText]
  · rw [List.append_assoc, structuresIn_append, structuresIn_flatMap each]
    · simp [structuresIn, structName?_eq_none]
    · decide
  · intro line hl
    rcases List.mem_append.mp hl with opening | later
    · exact (by decide : ∀ line ∈ _, OneLine line) line opening
    · obtain ⟨t, ht, among⟩ := List.mem_flatMap.mp later
      rcases List.mem_cons.mp among with rfl | inside
      · decide
      · exact oneLine_dataStruct (legible t ht) (written t ht) line inside

/-! ## Methods -/

theorem methodName?_open {name text : String} (free : '(' ∉ name.toList)
    (ends : text.toList.head? = some '(') :
    methodName? (memberIndent ++ ("pub async fn " ++ (name ++ text))) = some name := by
  have start : memberIndent ++ "pub async fn " = "    pub async fn " := by decide
  rw [← String.append_assoc, start]
  exact nameAfter?_append free ends

theorem methodName?_of_isComment {line : String} (h : Doc.IsComment memberIndent line) :
    methodName? line = none := by
  obtain ⟨text, whole, _⟩ := h
  rw [methodName?, nameAfter?, whole]
  rfl

/-- The call in a method is no method. -/
theorem methodName?_call (text : String) :
    methodName? ("        self.perform(\"" ++ text) = none := by
  rw [methodName?, nameAfter?, String.toList_append]
  rfl

theorem filterMap_method {o : Operation} (legible : LegibleOperation o) (errorType : String) :
    (method errorType o).filterMap methodName? = [Identifier.method o.name] := by
  have free : '(' ∉ (Identifier.method o.name).toList := fun among =>
    legible.nameEnds (Identifier.mem_of_mem_method (by decide) (by decide) (by decide) among)
  have comments : (Doc.entry o.description o.notes memberIndent).filterMap methodName? = [] := by
    rw [List.filterMap_eq_nil_iff]
    exact fun line hl => methodName?_of_isComment (Doc.isComment_of_mem_entry hl)
  have closing : methodName? (memberIndent ++ "\x7d") = none := by decide
  unfold method
  dsimp only
  rw [List.filterMap_append, List.filterMap_append, comments]
  split
  · simp only [String.append_assoc, List.filterMap_cons, List.filterMap_nil, methodName?_call]
    rw [methodName?_open free (by simp), closing]
    rfl
  · simp only [String.append_assoc, List.filterMap_cons, List.filterMap_nil, methodName?_call]
    rw [methodName?_open free (by simp), closing]
    rfl

theorem filterMap_methods {operations : List Operation}
    (legible : ∀ o ∈ operations, LegibleOperation o) (errorType : String) :
    (methods errorType operations).filterMap methodName? =
      operations.map fun o => Identifier.method o.name := by
  fun_induction methods errorType operations with
  | case1 => rfl
  | case2 o => exact filterMap_method (legible o List.mem_cons_self) errorType
  | case3 o p rest ih =>
    obtain ⟨first, later⟩ := List.forall_mem_cons.mp legible
    have blank : methodName? "" = none := by decide
    rw [List.filterMap_append, filterMap_method first, List.filterMap_cons, blank, ih later]
    rfl

/-- What is so of every line of each method, and of an empty line, is so of the lines of methods. -/
theorem forall_mem_methods {P : String → Prop} {errorType : String} {operations : List Operation}
    (blank : P "") (each : ∀ o ∈ operations, ∀ line ∈ method errorType o, P line) :
    ∀ line ∈ methods errorType operations, P line := by
  fun_induction methods errorType operations with
  | case1 => simp
  | case2 o => exact each o List.mem_cons_self
  | case3 o p rest ih =>
    obtain ⟨first, later⟩ := List.forall_mem_cons.mp each
    intro line hl
    rcases List.mem_append.mp hl with here | there
    · exact first line here
    · rcases List.mem_cons.mp there with rfl | after
      · exact blank
      · exact ih later line after

theorem indented_method (errorType : String) (o : Operation) :
    ∀ line ∈ method errorType o, Indented line := by
  intro line hl
  unfold method at hl
  dsimp only at hl
  rw [List.mem_append, List.mem_append] at hl
  rcases hl with (comment | body) | closing
  · exact indented_of_isComment (Doc.isComment_of_mem_entry comment)
  · unfold Indented
    split at body <;> simp only [List.mem_cons, List.not_mem_nil, or_false] at body <;>
      rcases body with rfl | rfl <;> simp [memberIndent]
  · rw [List.mem_singleton.mp closing]
    rfl

theorem oneLine_method {errorType : String} {o : Operation} (legible : LegibleOperation o)
    (written : OneLine o.returns.rustValue) (error : OneLine errorType) :
    ∀ line ∈ method errorType o, OneLine line := by
  have name := legible.name
  have identifier : OneLine (Identifier.method o.name) :=
    fun among => name (Identifier.mem_of_mem_method (by decide) (by decide) (by decide) among)
  have request : OneLine (Identifier.request o.name) :=
    fun among => name (Identifier.mem_of_mem_request (by decide) (by decide) among)
  intro line hl
  unfold method at hl
  dsimp only at hl
  rw [List.mem_append, List.mem_append] at hl
  rcases hl with (comment | body) | closing
  · exact oneLine_of_isComment (by decide) (Doc.isComment_of_mem_entry comment)
  · unfold OneLine at *
    split at body <;> simp only [List.mem_cons, List.not_mem_nil, or_false] at body <;>
      rcases body with rfl | rfl <;>
      simp [memberIndent, name, identifier, request, written, error]
  · rw [List.mem_singleton.mp closing]
    decide

/-! ## The bindings -/

/-- The operations that have a structure for their parameters. -/
def withRequest (operations : List Operation) : List Operation :=
  operations.filter fun o => !o.parameters.isEmpty

/-- The first lines of the bindings. -/
def imports (s : OutputSettings) : List String :=
  [header, "#![allow(non_snake_case, unused_imports)]", "", "use serde::Serialize;", "",
    "use " ++ s.modelsPath ++ "::*;",
    "use " ++ s.transportPath ++ "::\x7b" ++ s.clientType ++ ", " ++ s.errorType ++ "\x7d;"]

/-- The lines of the structures for parameters. -/
def requests (operations : List Operation) : List String :=
  (withRequest operations).flatMap fun o => "" :: requestStruct o

/-- The line that opens the methods. -/
def opening (s : OutputSettings) : String := "impl " ++ s.clientType ++ " \x7b"

/-- The lines of the bindings. -/
def clientLines (s : OutputSettings) (operations : List Operation) : List String :=
  imports s ++ requests operations ++ ["", opening s] ++ methods s.errorType operations ++ ["\x7d"]

theorem client_eq (s : OutputSettings) (operations : List Operation) :
    client s operations = sourceText (clientLines s operations) := rfl

section Client

variable {s : OutputSettings} {operations : List Operation}

theorem oneLine_clientLines (settings : LegibleSettings s)
    (legible : ∀ o ∈ operations, LegibleOperation o)
    (members : ∀ o ∈ operations, ∀ w ∈ o.wireTypes, OneLine w.rustMember)
    (results : ∀ o ∈ operations, OneLine o.returns.rustValue) :
    ∀ line ∈ clientLines s operations, OneLine line := by
  intro line hl
  simp only [clientLines, List.mem_append] at hl
  rcases hl with (((first | request) | opens) | method) | closing
  · obtain ⟨models, transport, client, error⟩ := settings
    unfold OneLine at *
    simp only [imports, List.mem_cons, List.not_mem_nil, or_false] at first
    rcases first with rfl | rfl | rfl | rfl | rfl | rfl | rfl <;>
      simp [header, models, transport, client, error]
  · obtain ⟨o, ho, among⟩ := List.mem_flatMap.mp request
    have listed := List.mem_of_mem_filter ho
    rcases List.mem_cons.mp among with rfl | inside
    · decide
    · exact oneLine_requestStruct (legible o listed) (members o listed) line inside
  · have client := settings.clientType
    unfold OneLine at *
    simp only [List.mem_cons, List.not_mem_nil, or_false] at opens
    rcases opens with rfl | rfl <;> simp [opening, client]
  · refine forall_mem_methods (by decide) (fun o ho => ?_) line method
    exact oneLine_method (legible o ho) (results o ho) settings.errorType
  · rw [List.mem_singleton.mp closing]
    decide

theorem head_of_mem_methods {errorType line : String} (h : line ∈ methods errorType operations) :
    line.toList.head? = some ' ' ∨ line = "" := by
  refine forall_mem_methods (P := fun line => line.toList.head? = some ' ' ∨ line = "") ?_ ?_ line h
  · exact .inr rfl
  · exact fun o _ line hl => .inl (indented_method errorType o line hl)

theorem structuresIn_clientLines (legible : ∀ o ∈ operations, LegibleOperation o) :
    structuresIn (clientLines s operations ++ [""]) =
      (withRequest operations).map declaredRequest := by
  have each : ∀ o ∈ withRequest operations, ∀ rest,
      structuresIn ("" :: requestStruct o ++ rest) = declaredRequest o :: structuresIn rest :=
    fun o ho => structuresIn_requestStruct (legible o (List.mem_of_mem_filter ho)).ends
  have inert : ∀ line ∈ ["", opening s] ++ (methods s.errorType operations ++ (["\x7d"] ++ [""])),
      line.toList.head? ≠ some 'p' := by
    intro line hl
    simp only [List.mem_append, List.mem_cons, List.not_mem_nil, or_false] at hl
    rcases hl with (rfl | rfl) | method | rfl | rfl
    · decide
    · simp [opening]
    · rcases head_of_mem_methods method with space | rfl
      · rw [space]
        decide
      · decide
    · decide
    · decide
  have none := structuresIn_append inert []
  rw [List.append_nil] at none
  rw [clientLines]
  simp only [List.append_assoc] at none ⊢
  rw [structuresIn_append, requests, structuresIn_flatMap each, none, structuresIn, List.append_nil]
  simp [imports, header]

theorem head_of_mem_requests {line : String} (h : line ∈ requests operations) :
    line.toList.head? ≠ some 'i' := by
  obtain ⟨o, _, among⟩ := List.mem_flatMap.mp h
  simp only [requestStruct, List.mem_append, List.mem_cons, List.not_mem_nil, or_false] at among
  rcases among with rfl | ((rfl | rfl | rfl) | member) | rfl
  · decide
  · simp
  · decide
  · simp
  · rw [indented_documented documents_parameter _ line member]
    decide
  · decide

theorem not_opensMethods {line : String} (head : line.toList.head? ≠ some 'i') :
    opensMethods line = false := by
  by_contra opens
  rw [Bool.not_eq_false, opensMethods, List.isPrefixOf_iff_prefix] at opens
  obtain ⟨rest, whole⟩ := opens
  exact head (by rw [← whole]; rfl)

theorem methodsIn_clientLines (legible : ∀ o ∈ operations, LegibleOperation o) :
    methodsIn (clientLines s operations ++ [""]) =
      operations.map fun o => Identifier.method o.name := by
  have before : ∀ line ∈ imports s ++ (requests operations ++ [""]),
      (!opensMethods line) = true := by
    intro line hl
    rw [not_opensMethods]
    · rfl
    · rcases List.mem_append.mp hl with first | later
      · have heads : ∀ line ∈ imports s, line.toList.head? ≠ some 'i' := by simp [imports, header]
        exact heads line first
      · rcases List.mem_append.mp later with request | blank
        · exact head_of_mem_requests request
        · rw [List.mem_singleton.mp blank]
          decide
  have begins : opensMethods (opening s) = true := by
    rw [opensMethods, opening, String.toList_append, String.toList_append, List.append_assoc,
      List.isPrefixOf_iff_prefix]
    exact List.prefix_append _ _
  have lines : clientLines s operations ++ [""] = (imports s ++ (requests operations ++ [""])) ++
      opening s :: (methods s.errorType operations ++ ["\x7d", ""]) := by
    simp [clientLines]
  have first : methodName? (opening s) = none := by
    rw [methodName?, nameAfter?, opening, String.toList_append, String.toList_append]
    rfl
  have last : ["\x7d", ""].filterMap methodName? = [] := by decide
  rw [methodsIn, lines, List.dropWhile_append_of_pos before, List.dropWhile_cons_of_neg
    (by simp [begins]), List.filterMap_cons, first, List.filterMap_append,
    filterMap_methods legible, last, List.append_nil]

/-- The bindings declare a structure for each operation with parameters and a method for each
operation, both in their order. -/
theorem declared_client (settings : LegibleSettings s)
    (legible : ∀ o ∈ operations, LegibleOperation o)
    (members : ∀ o ∈ operations, ∀ w ∈ o.wireTypes, OneLine w.rustMember)
    (results : ∀ o ∈ operations, OneLine o.returns.rustValue) :
    structuresOf (client s operations) = (withRequest operations).map declaredRequest ∧
      methodsOf (client s operations) = operations.map fun o => Identifier.method o.name := by
  have lines := linesOf_sourceText (oneLine_clientLines settings legible members results)
  rw [structuresOf, methodsOf, client_eq, lines]
  exact ⟨structuresIn_clientLines legible, methodsIn_clientLines legible⟩

end Client

end Bindings

end ApiReference
