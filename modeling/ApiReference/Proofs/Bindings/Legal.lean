import ApiReference.Proofs.Bindings.Identifier

/-!
Which texts are identifiers of Rust. Beyond ASCII that depends on the version of Unicode, so the
characters are taken as any that agree with the rules for ASCII (`Letters`). A capital followed by
letters and digits is an identifier, unless it is the one keyword that starts with a capital
(`isIdentifier_iff_of_capitalWord`).
-/

namespace ApiReference.Identifier

/-- The characters that identifiers may start with, apart from the underscore, and those that may
follow. -/
structure Letters where
  starts : Char → Bool
  follows : Char → Bool
  starts_ascii : ∀ c, c.toNat < 0x80 → starts c = c.isAlpha
  follows_ascii : ∀ c, c.toNat < 0x80 → follows c = (c.isAlphanum || c == '_')

/-- The letters of ASCII alone. -/
def Letters.ascii : Letters where
  starts := Char.isAlpha
  follows c := c.isAlphanum || c == '_'
  starts_ascii _ _ := rfl
  follows_ascii _ _ := rfl

/-- Whether a text is a keyword, one reserved for later editions included. -/
def IsKeyword (name : String) : Prop := name ∈ keywords ∨ name ∈ pathKeywords

instance : DecidablePred IsKeyword := fun _ => inferInstanceAs (Decidable (_ ∨ _))

namespace Letters

/-- Whether a text has the form of an identifier. A keyword has that too. -/
def IsWord (L : Letters) : List Char → Prop
  | [] => False
  | c :: cs => (L.starts c = true ∨ c = '_' ∧ cs ≠ []) ∧ ∀ d ∈ cs, L.follows d = true

/-- Whether a text is an identifier: a word that is no keyword, or any word with the mark of raw
identifiers, if that has a raw form. -/
def IsIdentifier (L : Letters) (name : String) : Prop :=
  L.IsWord name.toList ∧ ¬ IsKeyword name ∨
    ∃ raw, name = "r#" ++ raw ∧ L.IsWord raw.toList ∧ raw ∉ pathKeywords

end Letters

/-- Whether a name is a capital followed by letters and digits, all of ASCII. -/
def CapitalWord (name : String) : Prop :=
  name.toList.head?.any Char.isUpper = true ∧ ∀ c ∈ name.toList, c.isAlphanum = true

theorem CapitalWord.isWord {name : String} (h : CapitalWord name) (L : Letters) :
    L.IsWord name.toList := by
  obtain ⟨capital, letters⟩ := h
  cases shape : name.toList with
  | nil =>
    rw [shape] at capital
    cases capital
  | cons c cs =>
    rw [shape] at capital letters
    have upper : c.isUpper = true := capital
    obtain ⟨first, later⟩ := List.forall_mem_cons.mp letters
    refine ⟨.inl ?_, fun d hd => ?_⟩
    · rw [L.starts_ascii c (ascii_of_isAlphanum first), Char.isAlpha, upper, Bool.true_or]
    · rw [L.follows_ascii d (ascii_of_isAlphanum (later d hd)), later d hd, Bool.true_or]

/-- One keyword starts with a capital. -/
theorem isKeyword_iff_of_capitalWord {name : String} (h : CapitalWord name) :
    IsKeyword name ↔ name = "Self" := by
  have small : ∀ word ∈ keywords ++ pathKeywords,
      word = "Self" ∨ word.toList.head?.any Char.isUpper = false := by decide
  constructor
  · intro keyword
    refine (small name (List.mem_append.mpr keyword)).resolve_right fun notCapital => ?_
    rw [h.1] at notCapital
    cases notCapital
  · rintro rfl
    decide

theorem isIdentifier_iff_of_capitalWord {name : String} (h : CapitalWord name) (L : Letters) :
    L.IsIdentifier name ↔ name ≠ "Self" := by
  rw [ne_eq, ← isKeyword_iff_of_capitalWord h]
  constructor
  · rintro (⟨-, noKeyword⟩ | ⟨raw, rfl, -⟩)
    · exact noKeyword
    · exact absurd h.1 (by simp [String.toList_append])
  · exact fun noKeyword => .inl ⟨h.isWord L, noKeyword⟩

end ApiReference.Identifier
