import ApiReference.Bindings.Methods
import ApiReference.Proofs.Bindings.TypeNames

/-!
The order of generated source. The structures of the data model stand in the order of the data types
(`models_inOrder`), and the methods in the order of the operations (`client_inOrder`).
-/

namespace ApiReference

/-! ## Parts of a text -/

namespace Text

/-- Whether parts stand in a text one after the other. -/
def InOrder : List (List Char) → List Char → Prop
  | [], _ => True
  | part :: rest, text => ∃ before after, text = before ++ part ++ after ∧ InOrder rest after

theorem InOrder.prepend {parts : List (List Char)} {text : List Char} (h : InOrder parts text)
    (before : List Char) : InOrder parts (before ++ text) := by
  cases parts with
  | nil => trivial
  | cons part rest =>
    obtain ⟨pre, post, rfl, later⟩ := h
    exact ⟨before ++ pre, post, by simp, later⟩

theorem InOrder.append {parts : List (List Char)} {text : List Char} (h : InOrder parts text)
    (after : List Char) : InOrder parts (text ++ after) := by
  induction parts generalizing text with
  | nil => trivial
  | cons part rest ih =>
    obtain ⟨pre, post, rfl, later⟩ := h
    exact ⟨pre, post ++ after, by simp, ih later⟩

/-- A part of a text stands before what stands in order after that. -/
theorem InOrder.cons {parts : List (List Char)} {part first text : List Char}
    (inside : part <:+: first) (h : InOrder parts text) :
    InOrder (part :: parts) (first ++ text) := by
  obtain ⟨pre, post, rfl⟩ := inside
  exact ⟨pre, post ++ text, by simp, h.prepend post⟩

end Text

/-! ## Source as text -/

theorem sourceText_cons (line : String) (lines : List String) :
    (sourceText (line :: lines)).toList = line.toList ++ '\n' :: (sourceText lines).toList := by
  simp [sourceText]

theorem sourceText_append (first second : List String) :
    (sourceText (first ++ second)).toList =
      (sourceText first).toList ++ (sourceText second).toList := by
  induction first with
  | nil => simp [sourceText]
  | cons line rest ih => simp [sourceText_cons, ih]

/-- A line stands in source between line feeds, unless it is the first. -/
theorem line_inside (before after : List String) (previous line : String) :
    '\n' :: (line.toList ++ ['\n']) <:+:
      (sourceText (before ++ previous :: line :: after)).toList :=
  ⟨(sourceText before).toList ++ previous.toList, (sourceText after).toList,
    by simp [sourceText_append, sourceText_cons]⟩

/-- What a line starts with stands in the source. -/
theorem start_inside (before after : List String) {line : String} {start : List Char}
    (h : start <+: line.toList) : start <:+: (sourceText (before ++ line :: after)).toList := by
  obtain ⟨rest, whole⟩ := h
  refine ⟨(sourceText before).toList, rest ++ '\n' :: (sourceText after).toList, ?_⟩
  rw [sourceText_append, sourceText_cons, ← whole]
  simp

namespace Bindings

/-- Source cut at line feeds is its lines, with nothing behind the last of them. -/
theorem split_sourceText {lines : List String} (each : ∀ line ∈ lines, OneLine line) :
    Text.split (· == '\n') (sourceText lines).toList = lines.map String.toList ++ [[]] := by
  induction lines with
  | nil => rfl
  | cons line rest ih =>
    obtain ⟨first, later⟩ := List.forall_mem_cons.mp each
    rw [sourceText_cons, Text.split_append_cons rfl, first.split, ih later]
    rfl

/-- The line that opens the structure of a name, with the line feeds around it. -/
def structOpening (name : String) : List Char :=
  '\n' :: (("pub struct " ++ name ++ " \x7b").toList ++ ['\n'])

/-- What the line that opens the method of a name starts with. -/
def methodOpening (name : String) : List Char := ("    pub async fn " ++ name ++ "(&self").toList

theorem structOpening_inside (t : DataType) :
    structOpening t.name <:+: (sourceText ("" :: dataStruct t)).toList := by
  have lines : "" :: dataStruct t = ("" :: Doc.entry t.description t.notes "") ++
      "#[derive(Debug, Clone, Serialize, Deserialize)]" :: ("pub struct " ++ t.name ++ " \x7b") ::
        (t.fields.flatMap fieldMember ++ ["\x7d"]) := by
    simp [dataStruct]
  rw [lines]
  exact line_inside _ _ _ _

theorem methodOpening_inside (errorType : String) (o : Operation) :
    methodOpening (Identifier.method o.name) <:+: (sourceText (method errorType o)).toList := by
  unfold method
  dsimp only
  split
  · rw [List.append_assoc, List.cons_append]
    refine start_inside _ _ ⟨?_, ?_⟩
    · exact (") -> Result<" ++ o.returns.rustValue ++ ", " ++ errorType ++ "> \x7b").toList
    · simp [methodOpening, memberIndent]
  · rw [List.append_assoc, List.cons_append]
    refine start_inside _ _ ⟨?_, ?_⟩
    · exact (", request: &" ++ Identifier.request o.name ++ ") -> Result<" ++
        o.returns.rustValue ++ ", " ++ errorType ++ "> \x7b").toList
    · simp [methodOpening, memberIndent]

/-- The structures of the data model stand in the order of the data types. -/
theorem models_inOrder (types : List DataType) :
    Text.InOrder (types.map fun t => structOpening t.name) (models types).toList := by
  rw [models, sourceText_append]
  refine Text.InOrder.prepend ?_ _
  induction types with
  | nil => trivial
  | cons t rest ih =>
    rw [List.flatMap_cons, sourceText_append, List.map_cons]
    exact ih.cons (structOpening_inside t)

theorem methods_inOrder (errorType : String) (operations : List Operation) :
    Text.InOrder (operations.map fun o => methodOpening (Identifier.method o.name))
      (sourceText (methods errorType operations)).toList := by
  fun_induction methods errorType operations with
  | case1 => trivial
  | case2 o =>
    rw [← List.append_nil (sourceText _).toList]
    exact Text.InOrder.cons (methodOpening_inside errorType o) trivial
  | case3 o p rest ih =>
    rw [sourceText_append, sourceText_cons]
    exact Text.InOrder.cons (methodOpening_inside errorType o) (ih.prepend ['\n'])

/-- The methods stand in the order of the operations. -/
theorem client_inOrder (s : OutputSettings) (operations : List Operation) :
    Text.InOrder (operations.map fun o => methodOpening (Identifier.method o.name))
      (client s operations).toList := by
  rw [client, sourceText_append, sourceText_append]
  exact ((methods_inOrder s.errorType operations).prepend _).append _

end Bindings

end ApiReference
