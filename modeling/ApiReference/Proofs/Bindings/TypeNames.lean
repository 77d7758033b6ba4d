import ApiReference.Bindings.Models
import ApiReference.Proofs.Text.Split
import ApiReference.Proofs.WireType.RoundTrip

/-!
The names in generated Rust types. Each is built in or names a data type, and the generated data
model declares a structure for each data type.
-/

namespace ApiReference

/-! ## The names in a type -/

namespace Bindings

/-- The names in the source of a type: its stretches without angle brackets. -/
def typeNames (source : String) : List String :=
  ((Text.split (fun c => c == '<' || c == '>') source.toList).filter fun w => !w.isEmpty).map
    String.ofList

/-- The types that generated source uses without declaring them. -/
def builtIn : List String :=
  ["bool", "i32", "i64", "f64", "String", "Vec", "Box", "serde_json::Value"]

private theorem typeNames_single {name : String} (nonempty : name.toList ≠ [])
    (plain : ∀ c ∈ name.toList, (c == '<' || c == '>') = false) : typeNames name = [name] := by
  rw [typeNames, Text.split_of_forall plain]
  simp [nonempty]

/-- A type with a parameter has its own name and those in the parameter. -/
theorem typeNames_around {source outer inner : String}
    (around : source.toList = outer.toList ++ '<' :: (inner.toList ++ '>' :: []))
    (nonempty : outer.toList ≠ [])
    (plain : outer.toList.all (fun c => !(c == '<' || c == '>')) = true) :
    typeNames source = outer :: typeNames inner := by
  rw [typeNames, around, Text.split_append_cons rfl, Text.split_append_cons rfl,
    Text.split_of_forall fun c hc => by simpa using List.all_eq_true.mp plain c hc]
  simp [typeNames, nonempty, Text.split]

theorem typeNames_vec (inner : String) :
    typeNames ("Vec<" ++ inner ++ ">") = "Vec" :: typeNames inner :=
  typeNames_around (by simp) (by decide) (by decide)

theorem typeNames_box (inner : String) :
    typeNames ("Box<" ++ inner ++ ">") = "Box" :: typeNames inner :=
  typeNames_around (by simp) (by decide) (by decide)

private theorem typeNames_nameLike {name : String} (h : WireType.NameLike name) :
    typeNames name = [name] := by
  obtain ⟨c, rest, cons, -, letters⟩ := WireType.alphanumeric_of_isName h
  have opens : Text.isAlphanumeric '<' = false := by decide +kernel
  have closes : Text.isAlphanumeric '>' = false := by decide +kernel
  refine typeNames_single (by simp [cons]) fun d hd => ?_
  by_contra angle
  rw [Bool.not_eq_false, Bool.or_eq_true, beq_iff_eq, beq_iff_eq] at angle
  have letter := letters d hd
  rcases angle with rfl | rfl
  · rw [opens] at letter
    cases letter
  · rw [closes] at letter
    cases letter

private theorem typeNames_scalar (kind : Scalar) : ∀ n ∈ typeNames kind.rust, n ∈ builtIn := by
  cases kind <;> decide

private theorem typeNames_json : ∀ n ∈ typeNames "serde_json::Value", n ∈ builtIn := by
  decide

variable {named foreign : String → Prop}

/-- The names in the Rust type of a result are built in or those of data types. -/
theorem typeNames_rustValue {t : WireType} (h : t.Orderly named foreign)
    (nameLike : ∀ n, named n → WireType.NameLike n) :
    ∀ n ∈ typeNames t.rustValue, n ∈ builtIn ∨ named n := by
  induction h with
  | scalar kind =>
    intro n hn
    exact .inl (typeNames_scalar kind n hn)
  | @array element _ ih =>
    intro n hn
    rw [WireType.rustValue, typeNames_vec] at hn
    rcases List.mem_cons.mp hn with rfl | inner
    · exact .inl (by decide)
    · exact ih n inner
  | union =>
    intro n hn
    exact .inl (typeNames_json n hn)
  | @named name isNamed =>
    intro n hn
    rw [WireType.rustValue, typeNames_nameLike (nameLike name isNamed), List.mem_singleton] at hn
    rw [hn]
    exact .inr isNamed
  | foreign =>
    intro n hn
    exact .inl (typeNames_json n hn)

/-- The names in the Rust type of a member are built in or those of data types. -/
theorem typeNames_rustMember {t : WireType} (h : t.Orderly named foreign)
    (nameLike : ∀ n, named n → WireType.NameLike n) :
    ∀ n ∈ typeNames t.rustMember, n ∈ builtIn ∨ named n := by
  have value := typeNames_rustValue h nameLike
  cases h with
  | @named name isNamed =>
    intro n hn
    rw [WireType.rustMember, typeNames_box, typeNames_nameLike (nameLike name isNamed)] at hn
    rcases List.mem_cons.mp hn with rfl | inner
    · exact .inl (by decide)
    · rw [List.mem_singleton.mp inner]
      exact .inr isNamed
  | scalar | array | union | foreign => exact value

/-! ## The structures of the data model -/

/-- Whether source declares a structure of a name, on a line of its own. -/
def Declares (source name : String) : Prop :=
  ("pub struct " ++ name ++ " \x7b").toList ∈ Text.split (· == '\n') source.toList

/-- Whether a text has no line feed. -/
def OneLine (text : String) : Prop := '\n' ∉ text.toList

instance : DecidablePred OneLine := fun text => inferInstanceAs (Decidable ('\n' ∉ text.toList))

theorem OneLine.split {text : String} (h : OneLine text) :
    Text.split (· == '\n') text.toList = [text.toList] := by
  refine Text.split_of_forall fun c hc => ?_
  rw [beq_eq_false_iff_ne]
  rintro rfl
  exact h hc

theorem oneLine_of_nameLike {name : String} (h : WireType.NameLike name) : OneLine name := by
  intro feed
  obtain ⟨-, -, -, -, letters⟩ := WireType.alphanumeric_of_isName h
  have visible := Text.isBlank_of_isAlphanumeric (letters _ feed)
  cases visible

theorem mem_split_sourceText {line : String} (whole : OneLine line) :
    ∀ {lines : List String}, line ∈ lines →
      line.toList ∈ Text.split (· == '\n') (sourceText lines).toList := by
  intro lines
  induction lines with
  | nil => simp
  | cons first rest ih =>
    intro mem
    have cut : (sourceText (first :: rest)).toList
        = first.toList ++ '\n' :: (sourceText rest).toList := by
      simp [sourceText]
    rw [cut, Text.split_append_cons rfl]
    rcases List.mem_cons.mp mem with rfl | later
    · rw [whole.split]
      exact List.mem_append_left _ List.mem_cons_self
    · exact List.mem_append_right _ (ih later)

/-- The data model declares a structure for each data type with the name of one. -/
theorem declares_models {types : List DataType} {t : DataType} (ht : t ∈ types)
    (nameLike : WireType.NameLike t.name) : Declares (models types) t.name := by
  have name := oneLine_of_nameLike nameLike
  have whole : OneLine ("pub struct " ++ t.name ++ " \x7b") := by
    unfold OneLine at *
    simp [name]
  refine mem_split_sourceText whole (List.mem_append_right _ ?_)
  refine List.mem_flatMap.mpr ⟨t, ht, List.mem_cons_of_mem _ ?_⟩
  simp [dataStruct]

end Bindings

end ApiReference
