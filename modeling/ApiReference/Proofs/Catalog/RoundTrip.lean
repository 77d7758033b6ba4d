import ApiReference.Bindings.Artifacts
import ApiReference.Proofs.Json.Record
import ApiReference.Proofs.WireType.RoundTrip

/-!
Dumps read back. A catalog whose types can all be read from their notation is what its two dumps
hold: the texts and lists that the dumps leave out are the empty ones that reading puts there.
-/

namespace ApiReference

open Json

/-! ## The names of members -/

private abbrev fieldMembers : List String := ["name", "type", "optional", "description"]

private abbrev parameterMembers : List String := ["name", "type", "required", "description"]

private abbrev typeMembers : List String := ["name", "description", "additional_notes", "fields"]

private abbrev operationMembers : List String :=
  ["name", "description", "additional_notes", "parameters", "return_type"]

/-! ## Members that may be left out -/

section

variable {ε α : Type} {names : List String} {put : String → Parsed → α → Except (Fault ε) α}
  {name : String} {record filled : α}

private theorem fills_textMember {text : String} (listed : names.contains name = true)
    (h : put name (.text (some text)) record = .ok filled) (left : text = "" → record = filled) :
    Fills names put [name] (textMember name text) record filled := by
  unfold textMember
  split
  · rename_i empty
    rw [left (String.isEmpty_iff.mp empty)]
    exact .nothing _ _
  · exact .member listed (by rw [parsed]; exact h)

private theorem fills_listMember {items : List Json} (listed : names.contains name = true)
    (h : put name (parsed (.list items)) record = .ok filled) (left : items = [] → record = filled) :
    Fills names put [name] (listMember name items) record filled := by
  unfold listMember
  split
  · rename_i empty
    rw [left (List.isEmpty_iff.mp empty)]
    exact .nothing _ _
  · exact .member listed h

end

/-! ## Catalogs of readable types -/

/-- A data type with fields of readable types. -/
def DataType.Readable (t : DataType) : Prop := ∀ f ∈ t.fields, f.type.Readable

/-- An operation with parameters and a result of readable types. -/
structure Operation.Readable (o : Operation) : Prop where
  parameters : ∀ p ∈ o.parameters, p.type.Readable
  returns : o.returns.Readable

/-- A catalog whose types are all readable. -/
structure Catalog.Readable (c : Catalog) : Prop where
  types : ∀ t ∈ c.types, t.Readable
  operations : ∀ o ∈ c.operations, o.Readable

/-- The types of the fields of a data type. -/
def DataType.wireTypes (t : DataType) : List WireType := t.fields.map Field.type

/-- The types of the parameters of an operation and of its result. -/
def Operation.wireTypes (o : Operation) : List WireType :=
  o.parameters.map Parameter.type ++ [o.returns]

/-- The types of all fields, parameters and results of a catalog. -/
def Catalog.wireTypes (c : Catalog) : List WireType :=
  c.types.flatMap DataType.wireTypes ++ c.operations.flatMap Operation.wireTypes

theorem Catalog.readable_of_wireTypes {c : Catalog} (h : ∀ t ∈ c.wireTypes, t.Readable) :
    c.Readable := by
  have ofTypes (t : DataType) (ht : t ∈ c.types) (w : WireType) (hw : w ∈ t.wireTypes) :
      w.Readable :=
    h w (List.mem_append_left _ (List.mem_flatMap.mpr ⟨t, ht, hw⟩))
  have ofOperations (o : Operation) (ho : o ∈ c.operations) (w : WireType)
      (hw : w ∈ o.wireTypes) : w.Readable :=
    h w (List.mem_append_right _ (List.mem_flatMap.mpr ⟨o, ho, hw⟩))
  refine ⟨fun t ht f hf => ?_, fun o ho => ⟨fun p hp => ?_, ?_⟩⟩
  · exact ofTypes t ht f.type (List.mem_map_of_mem hf)
  · exact ofOperations o ho p.type (List.mem_append_left _ (List.mem_map_of_mem hp))
  · exact ofOperations o ho o.returns (List.mem_append_right _ List.mem_cons_self)

theorem WireType.ofJson_notationOf {t : WireType} (h : t.Readable) :
    WireType.ofJson (.text (some t.notationOf)) = .ok t := by
  unfold WireType.ofJson
  show (WireType.ofNotation t.notationOf).mapError Json.Fault.content = .ok t
  unfold WireType.Readable at h
  rw [h]
  rfl

theorem Field.ofJson_toJson {f : Field} (h : f.type.Readable) :
    Field.ofJson (parsed f.toJson) = .ok f := by
  have read := WireType.ofJson_notationOf h
  have name : Fills fieldMembers Field.put ["name"] [("name", .text f.name)]
      ⟨"", default, false, ""⟩ ⟨f.name, default, false, ""⟩ :=
    .member (by decide) rfl
  have type : Fills fieldMembers Field.put ["type"] [("type", .text f.type.notationOf)]
      ⟨f.name, default, false, ""⟩ ⟨f.name, f.type, false, ""⟩ :=
    .member (by decide) (by rw [parsed]; simp only [Field.put, read]; rfl)
  have optional : Fills fieldMembers Field.put ["optional"] [("optional", .bool f.optional)]
      ⟨f.name, f.type, false, ""⟩ ⟨f.name, f.type, f.optional, ""⟩ :=
    .member (by decide) rfl
  have description : Fills fieldMembers Field.put ["description"]
      (textMember "description" f.description) ⟨f.name, f.type, f.optional, ""⟩ f :=
    fills_textMember (by decide) rfl fun empty => by rw [← empty]
  have all := ((name.append type (by decide)).append optional (by decide)).append description
    (by decide)
  exact all.asRecord (by simp)

theorem Parameter.ofJson_toJson {p : Parameter} (h : p.type.Readable) :
    Parameter.ofJson (parsed p.toJson) = .ok p := by
  have read := WireType.ofJson_notationOf h
  have name : Fills parameterMembers Parameter.put ["name"] [("name", .text p.name)]
      ⟨"", default, false, ""⟩ ⟨p.name, default, false, ""⟩ :=
    .member (by decide) rfl
  have type : Fills parameterMembers Parameter.put ["type"] [("type", .text p.type.notationOf)]
      ⟨p.name, default, false, ""⟩ ⟨p.name, p.type, false, ""⟩ :=
    .member (by decide) (by rw [parsed]; simp only [Parameter.put, read]; rfl)
  have required : Fills parameterMembers Parameter.put ["required"]
      [("required", .bool p.required)] ⟨p.name, p.type, false, ""⟩
      ⟨p.name, p.type, p.required, ""⟩ :=
    .member (by decide) rfl
  have description : Fills parameterMembers Parameter.put ["description"]
      (textMember "description" p.description) ⟨p.name, p.type, p.required, ""⟩ p :=
    fills_textMember (by decide) rfl fun empty => by rw [← empty]
  have all := ((name.append type (by decide)).append required (by decide)).append description
    (by decide)
  exact all.asRecord (by simp)

theorem DataType.ofJson_toJson {t : DataType} (h : t.Readable) :
    DataType.ofJson (parsed t.toJson) = .ok t := by
  have read := asList_parsed fun f hf => Field.ofJson_toJson (h f hf)
  have name : Fills typeMembers DataType.put ["name"] [("name", .text t.name)]
      ⟨"", "", "", []⟩ ⟨t.name, "", "", []⟩ :=
    .member (by decide) rfl
  have description : Fills typeMembers DataType.put ["description"]
      (textMember "description" t.description) ⟨t.name, "", "", []⟩
      ⟨t.name, t.description, "", []⟩ :=
    fills_textMember (by decide) rfl fun empty => by rw [empty]
  have notes : Fills typeMembers DataType.put ["additional_notes"]
      (textMember "additional_notes" t.notes) ⟨t.name, t.description, "", []⟩
      ⟨t.name, t.description, t.notes, []⟩ :=
    fills_textMember (by decide) rfl fun empty => by rw [empty]
  have fields : Fills typeMembers DataType.put ["fields"]
      (listMember "fields" (t.fields.map Field.toJson)) ⟨t.name, t.description, t.notes, []⟩ t :=
    fills_listMember (by decide) (by simp only [DataType.put, read]; rfl)
      fun empty => by rw [← List.map_eq_nil_iff.mp empty]
  have all := ((name.append description (by decide)).append notes (by decide)).append fields
    (by decide)
  exact all.asRecord (by simp)

theorem Operation.ofJson_toJson {o : Operation} (h : o.Readable) :
    Operation.ofJson (parsed o.toJson) = .ok o := by
  have read := asList_parsed fun p hp => Parameter.ofJson_toJson (h.parameters p hp)
  have readReturns := WireType.ofJson_notationOf h.returns
  have name : Fills operationMembers Operation.put ["name"] [("name", .text o.name)]
      ⟨"", "", "", [], default⟩ ⟨o.name, "", "", [], default⟩ :=
    .member (by decide) rfl
  have description : Fills operationMembers Operation.put ["description"]
      (textMember "description" o.description) ⟨o.name, "", "", [], default⟩
      ⟨o.name, o.description, "", [], default⟩ :=
    fills_textMember (by decide) rfl fun empty => by rw [empty]
  have notes : Fills operationMembers Operation.put ["additional_notes"]
      (textMember "additional_notes" o.notes) ⟨o.name, o.description, "", [], default⟩
      ⟨o.name, o.description, o.notes, [], default⟩ :=
    fills_textMember (by decide) rfl fun empty => by rw [empty]
  have parameters : Fills operationMembers Operation.put ["parameters"]
      (listMember "parameters" (o.parameters.map Parameter.toJson))
      ⟨o.name, o.description, o.notes, [], default⟩
      ⟨o.name, o.description, o.notes, o.parameters, default⟩ :=
    fills_listMember (by decide) (by simp only [Operation.put, read]; rfl)
      fun empty => by rw [List.map_eq_nil_iff.mp empty]
  have returns : Fills operationMembers Operation.put ["return_type"]
      [("return_type", .text o.returns.notationOf)]
      ⟨o.name, o.description, o.notes, o.parameters, default⟩ o :=
    .member (by decide) (by rw [parsed]; simp only [Operation.put, readReturns]; rfl)
  have all := (((name.append description (by decide)).append notes (by decide)).append parameters
    (by decide)).append returns (by decide)
  exact all.asRecord (by simp)

/-! ## Dumps -/

private theorem newline_blank : ∀ c ∈ "\n".toList, isSpace c = true := by
  have newline : "\n".toList.all isSpace = true := by decide
  exact List.all_eq_true.mp newline

theorem readTypes_dumpTypes {types : List DataType} (h : ∀ t ∈ types, t.Readable) :
    readTypes (dumpTypes types) = .ok types := by
  unfold readTypes dumpTypes
  rw [read_pretty _ newline_blank, asList_parsed fun t ht => DataType.ofJson_toJson (h t ht)]
  rfl

theorem readOperations_dumpOperations {operations : List Operation}
    (h : ∀ o ∈ operations, o.Readable) :
    readOperations (dumpOperations operations) = .ok operations := by
  unfold readOperations dumpOperations
  rw [read_pretty _ newline_blank,
    asList_parsed fun o ho => Operation.ofJson_toJson (h o ho)]
  rfl

/-- A catalog of readable types is what its dumps hold. -/
theorem Catalog.ofDumps_dump {c : Catalog} (h : c.Readable) :
    Catalog.ofDumps (dumpTypes c.types) (dumpOperations c.operations) = .ok c := by
  unfold Catalog.ofDumps
  rw [readTypes_dumpTypes h.types, readOperations_dumpOperations h.operations]
  rfl

end ApiReference
