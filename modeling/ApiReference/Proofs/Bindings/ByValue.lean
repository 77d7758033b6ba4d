import ApiReference.Proofs.Bindings.Literals
import ApiReference.Proofs.Bindings.Undocumented

/-!
What the structures of generated source hold by value. The names of data types stand behind pointers
in the type of a member, so by value a member holds built-in types alone. In source both are names
of one kind. So a structure holds one by value just if a data type has a built-in name that members
spell by value, and otherwise all structures have a finite size (`finiteSize_structs`).
-/

namespace ApiReference

/-! ## Pointers in a type -/

namespace WireType

/-- The names in a type that are not below a union, in their order. -/
def references : WireType → List String
  | .named name => [name]
  | .array element => element.references
  | .scalar _ | .union _ | .foreign _ => []

/-- The types of Rust that keep what they hold behind a pointer. -/
inductive Pointer where
  | box
  | vec

def Pointer.rust : Pointer → String
  | .box => "Box"
  | .vec => "Vec"

/-- What the text of a type has apart from names inside pointers. -/
def fixedTexts : List String :=
  ["bool", "i32", "i64", "f64", "String", "serde_json::Value", "Vec<", ">"]

/-- A piece of the text of a type: fixed text, or a name directly inside a pointer. -/
inductive Piece where
  | fixed (text : String) (isFixed : text ∈ fixedTexts)
  | pointed (pointer : Pointer) (name : String)

namespace Piece

def text : Piece → String
  | fixed text _ => text
  | pointed pointer name => pointer.rust ++ "<" ++ name ++ ">"

def name? : Piece → Option String
  | fixed _ _ => none
  | pointed _ name => some name

end Piece

/-- Whether the text of a type names data types in their order, each directly inside a pointer, and
has only fixed text apart from that. -/
def PointsTo (source : String) (names : List String) : Prop :=
  ∃ pieces : List Piece,
    String.join (pieces.map Piece.text) = source ∧ pieces.filterMap Piece.name? = names

theorem pointsTo_fixed {text : String} (isFixed : text ∈ fixedTexts) : PointsTo text [] :=
  ⟨[.fixed text isFixed], by simp [Piece.text], rfl⟩

theorem pointsTo_pointed (pointer : Pointer) (name : String) :
    PointsTo (pointer.rust ++ "<" ++ name ++ ">") [name] :=
  ⟨[.pointed pointer name], by simp [Piece.text], rfl⟩

/-- A vector goes around whatever its elements point to. -/
theorem PointsTo.vec {source : String} {names : List String} (h : PointsTo source names) :
    PointsTo ("Vec<" ++ source ++ ">") names := by
  obtain ⟨pieces, whole, named⟩ := h
  refine ⟨.fixed "Vec<" (by decide) :: (pieces ++ [.fixed ">" (by decide)]), ?_, ?_⟩
  · simp [← whole, Piece.text, String.append_assoc]
  · rw [List.filterMap_cons, List.filterMap_append, ← named]
    simp [Piece.name?]

theorem pointsTo_array {element : WireType} (notNamed : ∀ name, element ≠ .named name)
    (h : PointsTo element.rustMember element.references) :
    PointsTo (array element).rustMember (array element).references := by
  have value : element.rustMember = element.rustValue := by
    cases element with
    | named name => exact absurd rfl (notNamed name)
    | scalar | array | union | foreign => rfl
  rw [value] at h
  exact h.vec

/-- A member names the data types of its type that are not below a union, each directly inside a
pointer. -/
theorem pointsTo_rustMember (t : WireType) : PointsTo t.rustMember t.references := by
  fun_induction references t with
  | case1 name => exact pointsTo_pointed .box name
  | case2 element ih =>
    -- The elements of a vector are not boxed, so a name there is inside the vector itself.
    by_cases named : ∃ name, element = .named name
    · obtain ⟨name, rfl⟩ := named
      exact pointsTo_pointed .vec name
    · exact pointsTo_array (fun name same => named ⟨name, same⟩) ih
  | case3 kind =>
    have isFixed : kind.rust ∈ fixedTexts := by cases kind <;> decide
    exact pointsTo_fixed isFixed
  | case4 | case5 =>
    have isFixed : "serde_json::Value" ∈ fixedTexts := by decide
    exact pointsTo_fixed isFixed

end WireType

namespace Bindings

/-! ## Types by value -/

/-- The first names of a type written with at most one parameter, up to a pointer: what is behind
that is not held by value. -/
def untilPointer : List String → List String
  | [] => []
  | name :: rest => if name = "Box" ∨ name = "Vec" then [name] else name :: untilPointer rest

/-- The names of the types that a type holds by value, its own included. -/
def heldByValue (type : String) : List String := untilPointer (typeNames type)

example : heldByValue "Option<Box<Message>>" = ["Option", "Box"] := by decide

theorem heldByValue_option (type : String) :
    heldByValue ("Option<" ++ type ++ ">") = "Option" :: heldByValue type := by
  have names : typeNames ("Option<" ++ type ++ ">") = "Option" :: typeNames type :=
    typeNames_around (by simp) (by decide) (by decide)
  rw [heldByValue, names, untilPointer, if_neg (by decide), heldByValue]

/-- The name of the type that a member has by value, whatever it points to. -/
def outermost : WireType → String
  | .scalar kind => kind.rust
  | .array _ => "Vec"
  | .named _ => "Box"
  | .union _ | .foreign _ => "serde_json::Value"

theorem heldByValue_rustMember (t : WireType) : heldByValue t.rustMember = [outermost t] := by
  cases t with
  | scalar kind => cases kind <;> decide
  | array element =>
    have names : typeNames (WireType.array element).rustMember =
        "Vec" :: typeNames element.rustValue := typeNames_vec _
    rw [heldByValue, names, untilPointer, if_pos (by decide), outermost]
  | named name =>
    have names : typeNames (WireType.named name).rustMember = "Box" :: typeNames name :=
      typeNames_box name
    rw [heldByValue, names, untilPointer, if_pos (by decide), outermost]
  | union | foreign => exact (by decide : heldByValue "serde_json::Value" = ["serde_json::Value"])

/-! ## Structures -/

/-- A member of a structure, with the text of its type. -/
structure Member where
  name : String
  type : String
  deriving DecidableEq

/-- A structure of generated source. -/
structure Struct where
  name : String
  members : List Member
  deriving DecidableEq

def Member.line (m : Member) : String := memberIndent ++ "pub " ++ m.name ++ ": " ++ m.type ++ ","

/-- The lines that declare a structure. -/
def Struct.lines (s : Struct) : List String :=
  ["pub struct " ++ s.name ++ " \x7b"] ++ s.members.map Member.line ++ ["\x7d"]

/-- The member for a name of the wire format. -/
def memberOf (wire : String) (type : WireType) (optional : Bool) : Member :=
  ⟨Identifier.field wire, if optional then "Option<" ++ type.rustMember ++ ">" else type.rustMember⟩

/-- The structure for a data type. -/
def structOf (t : DataType) : Struct :=
  ⟨t.name, t.fields.map fun f => memberOf f.name f.type f.optional⟩

/-- The structure for the parameters of an operation. -/
def requestOf (o : Operation) : Struct :=
  ⟨Identifier.request o.name, o.parameters.map fun p => memberOf p.name p.type (!p.required)⟩

/-- The structures of generated source. -/
def structs (c : Catalog) : List Struct :=
  c.types.map structOf ++ (withRequest c.operations).map requestOf

/-! ### Their lines -/

/-- Whether a line declares something: it is neither documentation nor an attribute of what comes
after it. -/
def isDeclaration (line : String) : Bool :=
  !isDocumentation line.toList && !"#[".toList.isPrefixOf (line.toList.dropWhile (· == ' '))

theorem isDeclaration_documentation {indent line : String} (spaces : ∀ c ∈ indent.toList, c = ' ')
    (h : Doc.IsDocumentation indent line) : isDeclaration line = false := by
  have documented := isDocumentation_append spaces h []
  rw [List.append_nil] at documented
  rw [isDeclaration, documented]
  rfl

theorem filter_documentation {indent : String} (spaces : ∀ c ∈ indent.toList, c = ' ')
    {lines : List String} (h : ∀ line ∈ lines, Doc.IsDocumentation indent line) :
    lines.filter isDeclaration = [] := by
  rw [List.filter_eq_nil_iff]
  intro line hl
  simp [isDeclaration_documentation spaces (h line hl)]

theorem filter_member (wire : String) (type : WireType) (optional : Bool) :
    (member wire type optional).filter isDeclaration = [(memberOf wire type optional).line] := by
  have silent (text : String) : isDeclaration (memberIndent ++ ("#[serde(rename = \"" ++ text)) =
      false := by
    simp [isDeclaration, memberIndent]
  have declared (text : String) : isDeclaration (memberIndent ++ ("pub " ++ text)) = true := by
    simp [isDeclaration, isDocumentation, memberIndent, List.isPrefixOf]
  unfold member
  dsimp only
  cases optional
  · simp [String.append_assoc, silent, declared, memberOf, Member.line]
  · simp [String.append_assoc, silent, declared, memberOf, Member.line, ← String.toList_inj]

/-- Of documented members, the lines that declare something are those of the members. -/
theorem filter_members {α : Type} {made : α → List String} {declared : α → Member} {xs : List α}
    (each : ∀ x, ∃ text wire type optional, made x = Doc.comment text memberIndent ++
      member wire type optional ∧ declared x = memberOf wire type optional) :
    (xs.flatMap made).filter isDeclaration = (xs.map declared).map Member.line := by
  rw [List.filter_flatMap, List.map_map, ← List.flatMap_pure_eq_map]
  refine List.flatMap_congr fun x _ => ?_
  obtain ⟨text, wire, type, optional, lines, same⟩ := each x
  have comment : (Doc.comment text memberIndent).filter isDeclaration = [] :=
    filter_documentation (fun _ => eq_space_of_mem_memberIndent) fun _ =>
      Doc.isDocumentation_of_mem_comment
  rw [lines, List.filter_append, comment, filter_member, ← same]
  rfl

theorem isDeclaration_open (name : String) :
    isDeclaration ("pub struct " ++ name ++ " \x7b") = true := by
  simp [isDeclaration, isDocumentation, List.isPrefixOf]

theorem filter_dataStruct (t : DataType) :
    (dataStruct t).filter isDeclaration = (structOf t).lines := by
  have comment : (Doc.entry t.description t.notes "").filter isDeclaration = [] :=
    filter_documentation (by simp) fun _ => Doc.isDocumentation_of_mem_entry
  have members : (t.fields.flatMap fieldMember).filter isDeclaration =
      (structOf t).members.map Member.line :=
    filter_members fun f => ⟨f.description, f.name, f.type, f.optional, rfl, rfl⟩
  have silent : isDeclaration "#[derive(Debug, Clone, Serialize, Deserialize)]" = false := by decide
  have closes : isDeclaration "\x7d" = true := by decide
  simp only [dataStruct, List.filter_append, comment, members, List.filter_cons, silent,
    isDeclaration_open, closes, List.filter_nil]
  rfl

theorem filter_requestStruct (o : Operation) :
    (requestStruct o).filter isDeclaration = (requestOf o).lines := by
  have members : (o.parameters.flatMap parameterMember).filter isDeclaration =
      (requestOf o).members.map Member.line :=
    filter_members fun p => ⟨p.description, p.name, p.type, !p.required, rfl, rfl⟩
  have comment : isDeclaration ("/// Parameters of \x60" ++ o.name ++ "\x60.") = false := by
    simp [isDeclaration, isDocumentation, List.isPrefixOf]
  have silent : isDeclaration "#[derive(Debug, Clone, Serialize)]" = false := by decide
  have closes : isDeclaration "\x7d" = true := by decide
  simp only [requestStruct, List.filter_append, comment, members, List.filter_cons, silent,
    isDeclaration_open, closes, List.filter_nil]
  rfl

/-- Structures with an empty line before each. -/
def spaced (structs : List Struct) : List String := structs.flatMap fun s => "" :: s.lines

theorem filter_spaced {α : Type} {made : α → List String} {declared : α → Struct}
    (each : ∀ x, (made x).filter isDeclaration = (declared x).lines) (xs : List α) :
    (xs.flatMap fun x => "" :: made x).filter isDeclaration = spaced (xs.map declared) := by
  have blank : isDeclaration "" = true := by decide
  rw [List.filter_flatMap, spaced, List.flatMap_map]
  refine List.flatMap_congr fun x _ => ?_
  rw [List.filter_cons, if_pos blank, each]

/-! ## Holding by value -/

/-- The name that an identifier stands for: it may have the mark of raw ones. -/
def bare (identifier : String) : String :=
  ((Text.dropPrefix? "r#".toList identifier.toList).map String.ofList).getD identifier

/-- Whether a structure holds another by value: the name of that is one that a member spells so. -/
def Holds (outer inner : Struct) : Prop :=
  ∃ m ∈ outer.members, bare inner.name ∈ heldByValue m.type

instance (outer inner : Struct) : Decidable (Holds outer inner) :=
  inferInstanceAs (Decidable (∃ m ∈ outer.members, _))

/-- Whether a structure among others has a finite size: what it holds by value has one. -/
def FiniteSize (all : List Struct) (s : Struct) : Prop :=
  Acc (fun inner outer => inner ∈ all ∧ Holds outer inner) s

/-- A structure that holds itself is part of itself without end. -/
theorem not_finiteSize {all : List Struct} {s : Struct} (among : s ∈ all) (holds : Holds s s) :
    ¬FiniteSize all s := by
  intro finite
  induction finite with
  | intro s _ ih => exact ih s ⟨among, holds⟩ among holds

/-- The names that the members of structures spell by value. -/
def namesByValue (all : List Struct) : List String :=
  all.flatMap fun s => s.members.flatMap fun m => heldByValue m.type

theorem mem_namesByValue {all : List Struct} {name : String} :
    name ∈ namesByValue all ↔ ∃ s ∈ all, ∃ m ∈ s.members, name ∈ heldByValue m.type := by
  simp [namesByValue]

theorem outermost_builtIn (t : WireType) : outermost t ∈ builtIn := by
  cases t with
  | scalar kind => cases kind <;> decide
  | array => exact (by decide : "Vec" ∈ builtIn)
  | named => exact (by decide : "Box" ∈ builtIn)
  | union | foreign => exact (by decide : "serde_json::Value" ∈ builtIn)

/-- A member spells built-in names by value and no others. -/
theorem heldByValue_memberOf (wire : String) (type : WireType) (optional : Bool) :
    ∀ name ∈ heldByValue (memberOf wire type optional).type, name ∈ "Option" :: builtIn := by
  have outer := List.mem_cons_of_mem "Option" (outermost_builtIn type)
  cases optional with
  | true =>
    have held : heldByValue (memberOf wire type true).type = ["Option", outermost type] := by
      rw [← heldByValue_rustMember, ← heldByValue_option]
      rfl
    rw [held]
    simpa using outer
  | false =>
    have held : heldByValue (memberOf wire type false).type = [outermost type] :=
      heldByValue_rustMember type
    rw [held]
    simpa using outer

theorem namesByValue_builtIn (c : Catalog) :
    ∀ name ∈ namesByValue (structs c), name ∈ "Option" :: builtIn := by
  intro name spelled
  obtain ⟨s, hs, m, hm, held⟩ := mem_namesByValue.mp spelled
  rcases List.mem_append.mp hs with data | request
  · obtain ⟨t, _, rfl⟩ := List.mem_map.mp data
    obtain ⟨f, _, rfl⟩ := List.mem_map.mp hm
    exact heldByValue_memberOf _ _ _ name held
  · obtain ⟨o, _, rfl⟩ := List.mem_map.mp request
    obtain ⟨p, _, rfl⟩ := List.mem_map.mp hm
    exact heldByValue_memberOf _ _ _ name held

theorem request_suffix_bare {name : String} (h : "Request".toList <:+ name.toList) :
    "Request".toList <:+ (bare name).toList := by
  unfold bare Text.dropPrefix?
  split
  · rename_i starts
    obtain ⟨rest, whole⟩ := List.isPrefixOf_iff_prefix.mp starts
    -- The mark holds no capital, so the ending is behind it.
    rw [← whole] at h ⊢
    have behind : "Request".toList <:+ rest := by
      simpa [List.suffix_cons_iff] using h
    simpa using behind
  · exact h

/-- The name of a structure for parameters is not built in. -/
theorem request_not_builtIn (operation : String) :
    bare (Identifier.request operation) ∉ "Option" :: builtIn := by
  have other : ∀ name ∈ "Option" :: builtIn, ¬"Request".toList <:+ name.toList := by decide
  have ending : "Request".toList <:+ (Identifier.request operation).toList := by
    rw [Identifier.request, String.toList_append]
    exact List.suffix_append _ _
  exact fun among => other _ among (request_suffix_bare ending)

section Generated

variable {c : Catalog}

/-- A generated structure that another holds by value is one for a data type. -/
theorem dataType_of_holds {outer inner : Struct} (ho : outer ∈ structs c) (hi : inner ∈ structs c)
    (holds : Holds outer inner) : ∃ t ∈ c.types, bare t.name ∈ namesByValue (structs c) := by
  obtain ⟨m, hm, held⟩ := holds
  have spelled : bare inner.name ∈ namesByValue (structs c) :=
    mem_namesByValue.mpr ⟨outer, ho, m, hm, held⟩
  rcases List.mem_append.mp hi with data | request
  · obtain ⟨t, ht, rfl⟩ := List.mem_map.mp data
    exact ⟨t, ht, spelled⟩
  · obtain ⟨o, _, rfl⟩ := List.mem_map.mp request
    exact absurd (namesByValue_builtIn c _ spelled) (request_not_builtIn o.name)

theorem holds_iff : (∃ outer ∈ structs c, ∃ inner ∈ structs c, Holds outer inner) ↔
    ∃ t ∈ c.types, bare t.name ∈ namesByValue (structs c) := by
  constructor
  · rintro ⟨outer, ho, inner, hi, holds⟩
    exact dataType_of_holds ho hi holds
  · rintro ⟨t, ht, spelled⟩
    obtain ⟨s, hs, m, hm, held⟩ := mem_namesByValue.mp spelled
    exact ⟨s, hs, structOf t, List.mem_append_left _ (List.mem_map_of_mem ht), m, hm, held⟩

theorem finiteSize_of_names (free : ∀ t ∈ c.types, bare t.name ∉ namesByValue (structs c)) :
    ∀ s ∈ structs c, FiniteSize (structs c) s := by
  intro s hs
  -- No structure holds another, so there is nothing to go down to.
  refine Acc.intro s ?_
  rintro inner ⟨hi, holds⟩
  obtain ⟨t, ht, spelled⟩ := dataType_of_holds hs hi holds
  exact absurd spelled (free t ht)

end Generated

theorem filter_modelLines (types : List DataType) :
    (modelLines types).filter isDeclaration = preamble ++ spaced (types.map structOf) := by
  have opening : preamble.filter isDeclaration = preamble := by decide
  rw [← filter_spaced filter_dataStruct, ← opening, ← List.filter_append]
  rfl

/-- **Structures by value.** The members of the generated structures name the data types of their
types that are not below a union, each directly inside a pointer. What they spell by value is built
in, and a structure holds another or itself just if a data type has such a name. If none has, all
structures have a finite size. -/
theorem finiteSize_structs (c : Catalog) :
    (∀ t : WireType, WireType.PointsTo t.rustMember t.references) ∧
    ((modelLines c.types).filter isDeclaration = preamble ++ spaced (c.types.map structOf) ∧
      (requests c.operations).filter isDeclaration =
        spaced ((withRequest c.operations).map requestOf)) ∧
    (∀ name ∈ namesByValue (structs c), name ∈ "Option" :: builtIn) ∧
    ((∃ outer ∈ structs c, ∃ inner ∈ structs c, Holds outer inner) ↔
      ∃ t ∈ c.types, bare t.name ∈ namesByValue (structs c)) ∧
    ((∀ t ∈ c.types, bare t.name ∉ namesByValue (structs c)) →
      ∀ s ∈ structs c, FiniteSize (structs c) s) := by
  refine ⟨WireType.pointsTo_rustMember, ⟨filter_modelLines c.types, ?_⟩, namesByValue_builtIn c,
    holds_iff, finiteSize_of_names⟩
  exact filter_spaced filter_requestStruct (withRequest c.operations)

/-- Two data types that hold each other, and one of them itself, and a request that holds one. -/
def recursive : Catalog where
  types := [
    ⟨"Message", "", "", [⟨"reply_to_message", .named "Message", true, ""⟩,
      ⟨"entities", .array (.named "Entity"), false, ""⟩]⟩,
    ⟨"Entity", "", "", [⟨"message", .named "Message", false, ""⟩]⟩]
  operations := [⟨"sendMessage", "", "", [⟨"message", .named "Message", true, ""⟩], .named "Message"⟩]

theorem finiteSize_recursive :
    (∀ t ∈ recursive.types, bare t.name ∉ namesByValue (structs recursive)) ∧
      ∀ s ∈ structs recursive, FiniteSize (structs recursive) s := by
  have free : ∀ t ∈ recursive.types, bare t.name ∉ namesByValue (structs recursive) := by decide
  obtain ⟨-, -, -, -, finite⟩ := finiteSize_structs recursive
  exact ⟨free, finite free⟩

/-- A data type with the name of a built-in type that its field has. -/
def shadowing : DataType := ⟨"String", "", "", [⟨"a", .scalar .string, false, ""⟩]⟩

/-- Its structure holds itself, without a data type in it that could be behind a pointer. -/
theorem holds_itself_shadowing :
    (structOf shadowing).lines = ["pub struct String \x7b", "    pub A: String,", "\x7d"] ∧
      Holds (structOf shadowing) (structOf shadowing) ∧
      ¬FiniteSize (structs ⟨[shadowing], []⟩) (structOf shadowing) := by
  have holds : Holds (structOf shadowing) (structOf shadowing) := by decide
  exact ⟨by decide, holds, not_finiteSize List.mem_cons_self holds⟩

end Bindings

end ApiReference
