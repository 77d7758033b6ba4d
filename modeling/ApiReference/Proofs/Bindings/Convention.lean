import Mathlib.Computability.RegularExpressions
import ApiReference.Proofs.Bindings.Legal

/-!
Names that follow the conventions of the wire format, of any length: parts with underscores between
them for fields and parameters, humps for operations. Different names have different identifiers,
and these are identifiers of Rust, where only keywords that allow it are written in their raw form
(`identifiers_of_convention`).
-/

namespace ApiReference.Identifier

/-! ## The conventions -/

/-- The characters from one to another. -/
def between (first last : Char) : List Char :=
  (List.range' first.toNat (last.toNat + 1 - first.toNat)).map Char.ofNat

def smallLetters : List Char := between 'a' 'z'

def capitals : List Char := between 'A' 'Z'

def digits : List Char := between '0' '9'

/-- Matches one of some characters. -/
def oneOf (cs : List Char) : RegularExpression Char := cs.foldr (fun c more => .char c + more) 0

/-- Matches `[a-z][a-z0-9]*`. -/
def part : RegularExpression Char :=
  oneOf smallLetters * .star (oneOf (smallLetters ++ digits))

/-- Matches `[A-Z][a-z0-9]+`. -/
def hump : RegularExpression Char :=
  oneOf capitals * (oneOf (smallLetters ++ digits) * .star (oneOf (smallLetters ++ digits)))

/-- Whether a name matches `[a-z][a-z0-9]*(_[a-z][a-z0-9]*)*`. -/
def SnakeCase (name : String) : Prop := name.toList ∈ (part * .star (.char '_' * part)).matches'

/-- Whether a name matches `[a-z][a-z0-9]*([A-Z][a-z0-9]+)*`. -/
def CamelCase (name : String) : Prop := name.toList ∈ (part * .star hump).matches'

instance : DecidablePred SnakeCase := fun name =>
  inferInstanceAs (Decidable (name.toList ∈ RegularExpression.matches' _))

instance : DecidablePred CamelCase := fun name =>
  inferInstanceAs (Decidable (name.toList ∈ RegularExpression.matches' _))

example : ¬SnakeCase "a__b" ∧ ¬CamelCase "getURL" := by decide +kernel

section Matches

variable {cs w : List Char}

theorem mem_oneOf : w ∈ (oneOf cs).matches' ↔ ∃ c ∈ cs, w = [c] := by
  induction cs with
  | nil => exact ⟨fun h => absurd h (Language.notMem_zero w), by simp⟩
  | cons c cs ih =>
    have first : w ∈ (oneOf (c :: cs)).matches' ↔ w = [c] ∨ w ∈ (oneOf cs).matches' := Iff.rfl
    rw [first, ih]
    simp

theorem mem_star_oneOf (h : w ∈ (RegularExpression.star (oneOf cs)).matches') :
    ∀ c ∈ w, c ∈ cs := by
  obtain ⟨letters, rfl, each⟩ := Language.mem_kstar.mp h
  intro c hc
  obtain ⟨letter, among, inside⟩ := List.mem_flatten.mp hc
  obtain ⟨d, hd, rfl⟩ := mem_oneOf.mp (each letter among)
  rwa [List.mem_singleton.mp inside]

/-- A reader that goes on behind each piece as it began reads a run of pieces as it reads nothing. -/
theorem eq_of_star {reads : List Char → Bool} {piece : RegularExpression Char}
    (each : ∀ w ∈ piece.matches', ∀ rest, reads (w ++ rest) = reads rest)
    (h : w ∈ piece.star.matches') : reads w = reads [] := by
  obtain ⟨pieces, rfl, among⟩ := Language.mem_kstar.mp h
  clear h
  induction pieces with
  | nil => rfl
  | cons first pieces ih =>
    obtain ⟨here, later⟩ := List.forall_mem_cons.mp among
    rw [List.flatten_cons, each first here]
    exact ih later

theorem isSmall_of_mem {c : Char} (h : c ∈ smallLetters ++ digits) : isSmall c = true := by
  have all : (smallLetters ++ digits).all isSmall = true := by decide +kernel
  exact List.all_eq_true.mp all c h

theorem isSmall_of_isLower {c : Char} (h : c.isLower = true) : isSmall c = true := by
  rw [isSmall, h, Bool.true_or]

theorem cons_of_part (h : w ∈ part.matches') :
    ∃ c cs, w = c :: cs ∧ c.isLower = true ∧ ∀ d ∈ cs, isSmall d = true := by
  have letters : smallLetters.all Char.isLower = true := by decide +kernel
  obtain ⟨first, hf, cs, hcs, rfl⟩ := Language.mem_mul.mp h
  obtain ⟨c, hc, rfl⟩ := mem_oneOf.mp hf
  exact ⟨c, cs, rfl, List.all_eq_true.mp letters c hc,
    fun d hd => isSmall_of_mem (mem_star_oneOf hcs d hd)⟩

theorem cons_of_hump (h : w ∈ hump.matches') :
    ∃ c cs, w = c :: cs ∧ c.isUpper = true ∧ cs ≠ [] ∧ ∀ d ∈ cs, isSmall d = true := by
  have letters : capitals.all Char.isUpper = true := by decide +kernel
  obtain ⟨first, hf, later, hl, rfl⟩ := Language.mem_mul.mp h
  obtain ⟨c, hc, rfl⟩ := mem_oneOf.mp hf
  obtain ⟨second, hs, cs, hcs, rfl⟩ := Language.mem_mul.mp hl
  obtain ⟨d, hd, rfl⟩ := mem_oneOf.mp hs
  refine ⟨c, d :: cs, rfl, List.all_eq_true.mp letters c hc, List.cons_ne_nil d cs, ?_⟩
  exact List.forall_mem_cons.mpr
    ⟨isSmall_of_mem hd, fun e he => isSmall_of_mem (mem_star_oneOf hcs e he)⟩

/-- What starts with a part starts with a small letter. -/
theorem starts_of_part {more : RegularExpression Char} (h : w ∈ (part * more).matches') :
    ∃ c cs, w = c :: cs ∧ c.isLower = true := by
  obtain ⟨first, hf, rest, -, rfl⟩ := Language.mem_mul.mp h
  obtain ⟨c, cs, rfl, letter, -⟩ := cons_of_part hf
  exact ⟨c, cs ++ rest, rfl, letter⟩

/-- Small characters go on with a part. -/
theorem isSnake_append (small : ∀ c ∈ cs, isSmall c = true) (rest : List Char) :
    isSnake false (cs ++ rest) = isSnake false rest := by
  induction cs with
  | nil => rfl
  | cons c cs ih =>
    obtain ⟨first, later⟩ := List.forall_mem_cons.mp small
    have mark := (ne_of_isAlphanum (isAlphanum_of_isSmall first)).1
    rw [List.cons_append, isSnake, if_neg (by simpa using mark), ih later]
    simp [first]

theorem isSnake_part (h : w ∈ part.matches') (rest : List Char) :
    isSnake true (w ++ rest) = isSnake false rest := by
  obtain ⟨c, cs, rfl, letter, small⟩ := cons_of_part h
  have mark := (ne_of_isAlphanum (isAlphanum_of_isSmall (isSmall_of_isLower letter))).1
  rw [List.cons_append, isSnake, if_neg (by simpa using mark), isSnake_append small]
  simp [letter]

theorem isCamel_append (some : cs ≠ []) (small : ∀ c ∈ cs, isSmall c = true) (inside : Bool)
    (rest : List Char) : isCamel inside (cs ++ rest) = isCamel true rest := by
  induction cs generalizing inside with
  | nil => exact absurd rfl some
  | cons c cs ih =>
    obtain ⟨first, later⟩ := List.forall_mem_cons.mp small
    have lower := (case_of_isSmall first).1
    rw [List.cons_append, isCamel, if_neg (by simp [lower]), first, Bool.true_and]
    cases cs with
    | nil => rfl
    | cons d ds => exact ih (List.cons_ne_nil d ds) later true

theorem isCamel_hump (h : w ∈ hump.matches') (rest : List Char) :
    isCamel true (w ++ rest) = isCamel true rest := by
  obtain ⟨c, cs, rfl, capital, some, small⟩ := cons_of_hump h
  rw [List.cons_append, isCamel, if_pos capital, isCamel_append some small, Bool.true_and]

end Matches

section Convention

variable {name : String}

theorem SnakeCase.isSnake (h : SnakeCase name) : isSnake true name.toList = true := by
  obtain ⟨first, hf, rest, hr, whole⟩ := Language.mem_mul.mp h
  rw [← whole, isSnake_part hf]
  refine eq_of_star (fun w hw more => ?_) hr
  obtain ⟨mark, hm, later, hl, rfl⟩ := Language.mem_mul.mp hw
  obtain rfl : mark = ['_'] := hm
  exact isSnake_part hl more

theorem CamelCase.isCamel (h : CamelCase name) : isCamel false name.toList = true := by
  obtain ⟨first, hf, rest, hr, whole⟩ := Language.mem_mul.mp h
  obtain ⟨c, cs, rfl, letter, small⟩ := cons_of_part hf
  have all : ∀ d ∈ c :: cs, isSmall d = true :=
    List.forall_mem_cons.mpr ⟨isSmall_of_isLower letter, small⟩
  rw [← whole, isCamel_append (List.cons_ne_nil c cs) all]
  exact eq_of_star (fun w hw more => isCamel_hump hw more) hr

end Convention

/-! ## Identifiers of Rust -/

/-- The keywords of Rust 2024, those it reserves without a use included. -/
def reservedWords : List String := [
  "as", "async", "await", "break", "const", "continue", "crate", "dyn", "else", "enum", "extern",
  "false", "fn", "for", "if", "impl", "in", "let", "loop", "match", "mod", "move", "mut", "pub",
  "ref", "return", "self", "Self", "static", "struct", "super", "trait", "true", "type", "unsafe",
  "use", "where", "while",
  "abstract", "become", "box", "do", "final", "gen", "macro", "override", "priv", "try", "typeof",
  "unsized", "virtual", "yield"]

/-- The keywords that have no raw form. -/
def withoutRawForm : List String := ["crate", "self", "Self", "super"]

theorem isKeyword_of_reserved {name : String} (h : name ∈ reservedWords) : IsKeyword name := by
  have listed : ∀ word ∈ reservedWords, IsKeyword word := by decide
  exact listed name h

/-- Whether a text is an identifier of Rust 2024 that is no bare keyword: a word that is not reserved,
or the raw form of a keyword that has one. -/
def Letters.IsLegal (L : Letters) (name : String) : Prop :=
  L.IsWord name.toList ∧ name ∉ reservedWords ∨
    ∃ keyword ∈ reservedWords, keyword ∉ withoutRawForm ∧ name = "r#" ++ keyword

/-- Whether a name is a letter followed by letters, digits and underscores, all of ASCII. -/
def AsciiWord (name : String) : Prop :=
  name.toList.head?.any Char.isAlpha = true ∧ ∀ c ∈ name.toList, c.isAlphanum = true ∨ c = '_'

theorem CapitalWord.asciiWord {name : String} (h : CapitalWord name) : AsciiWord name := by
  obtain ⟨capital, letters⟩ := h
  refine ⟨?_, fun c hc => .inl (letters c hc)⟩
  obtain ⟨c, first, upper⟩ := (Option.any_eq_true _ _).mp capital
  rw [first, Option.any_some, Char.isAlpha, upper, Bool.true_or]

section Legal

variable {name : String} (L : Letters)

theorem AsciiWord.isWord (h : AsciiWord name) : L.IsWord name.toList := by
  obtain ⟨letter, all⟩ := h
  have ascii : ∀ c ∈ name.toList, c.toNat < 0x80 := by
    intro c hc
    rcases all c hc with alphanum | rfl
    · exact ascii_of_isAlphanum alphanum
    · decide
  cases shape : name.toList with
  | nil =>
    rw [shape] at letter
    cases letter
  | cons c cs =>
    rw [shape] at letter all ascii
    refine ⟨.inl ?_, fun d hd => ?_⟩
    · rw [L.starts_ascii c (ascii c List.mem_cons_self)]
      exact letter
    · rw [L.follows_ascii d (ascii d (List.mem_cons_of_mem c hd))]
      simpa using all d (List.mem_cons_of_mem c hd)

/-- Any word made safe is legal: what stands for a keyword is its raw form, or a word that is no
keyword where there is no raw form. -/
theorem isLegal_escape (h : AsciiWord name) : L.IsLegal (escape name) := by
  unfold escape
  split
  · rename_i path
    have free : ∀ word ∈ pathKeywords, word ++ "_" ∉ reservedWords := by decide
    refine .inl ⟨AsciiWord.isWord L ⟨?_, ?_⟩, free name (by simpa using path)⟩
    · obtain ⟨c, first, letter⟩ := (Option.any_eq_true _ _).mp h.1
      rw [String.toList_append, List.head?_append, first]
      exact letter
    · intro c hc
      rw [String.toList_append, List.mem_append] at hc
      rcases hc with inside | mark
      · exact h.2 c inside
      · exact .inr (by simpa using mark)
  · rename_i noPath
    split
    · rename_i keyword
      have raw : ∀ word ∈ keywords, word ∉ pathKeywords →
          word ∈ reservedWords ∧ word ∉ withoutRawForm := by decide
      obtain ⟨reserved, allowed⟩ := raw name (by simpa using keyword) (by simpa using noPath)
      exact .inr ⟨name, reserved, allowed, rfl⟩
    · rename_i noKeyword
      refine .inl ⟨h.isWord L, fun reserved => ?_⟩
      rcases isKeyword_of_reserved reserved with keyword | path
      · exact noKeyword (by simpa using keyword)
      · exact noPath (by simpa using path)

end Legal

/-! ## Names by convention -/

section Convention

variable {name : String}

theorem capitalized_of_isLower {c : Char} (letter : c.isLower = true) (cs : List Char) :
    capitalized true (c :: cs) = c.toUpper :: capitalized false cs := by
  have small := isSmall_of_isLower letter
  obtain ⟨_, _, _, upper, _⟩ := case_of_isSmall small
  rw [capitalized_cons (isAlphanum_of_isSmall small), if_pos rfl, upper]
  rfl

theorem SnakeCase.capitalWord (h : SnakeCase name) : CapitalWord (pascalCase name) := by
  have letters := isAlphanum_of_mem_capitalized h.isSnake
  obtain ⟨c, cs, shape, letter⟩ := starts_of_part h
  rw [CapitalWord, pascalCase, String.toList_ofList]
  refine ⟨?_, letters⟩
  rw [shape, capitalized_of_isLower letter]
  exact isUpper_toUpper letter

theorem isAlphanum_of_isCamel {inside : Bool} {cs : List Char} (h : isCamel inside cs = true) :
    ∀ c ∈ cs, c.isAlphanum = true := by
  induction cs generalizing inside with
  | nil => simp
  | cons c cs ih =>
    rw [List.forall_mem_cons]
    rcases isCamel_cons h with ⟨capital, _, rest⟩ | ⟨small, rest⟩
    · exact ⟨isAlphanum_of_isUpper capital, ih rest⟩
    · exact ⟨isAlphanum_of_isSmall small, ih rest⟩

theorem CamelCase.capitalWord (h : CamelCase name) : CapitalWord (request name) := by
  have camel := h.isCamel
  obtain ⟨c, cs, shape, letter⟩ := starts_of_part h
  have small := isSmall_of_isLower letter
  obtain ⟨_, _, _, _, _, upper⟩ := case_of_isSmall small
  have rest : ∃ inside, Identifier.isCamel inside cs = true := by
    rw [shape] at camel
    rcases isCamel_cons camel with ⟨_, _, rest⟩ | ⟨_, rest⟩
    · exact ⟨_, rest⟩
    · exact ⟨_, rest⟩
  obtain ⟨inside, rest⟩ := rest
  have chars : (request name).toList = c.toUpper :: (cs ++ "Request".toList) := by
    rw [request, pascalCase, String.toList_append, String.toList_ofList, shape,
      capitalized_of_isLower letter, capitalized_camel rest]
    rfl
  have ending : "Request".toList.all Char.isAlphanum = true := by decide
  rw [CapitalWord, chars]
  refine ⟨isUpper_toUpper letter, List.forall_mem_cons.mpr ⟨upper, ?_⟩⟩
  exact List.forall_mem_append.mpr ⟨isAlphanum_of_isCamel rest, List.all_eq_true.mp ending⟩

/-- A method of an operation has letters, digits and the underscores between words. -/
theorem forall_mem_underscored {before : Option Char} {cs : List Char}
    (h : isCamel (before.any isSmall) cs = true) :
    ∀ c ∈ underscored before cs, c.isAlphanum = true ∨ c = '_' := by
  induction cs generalizing before with
  | nil => simp [underscored]
  | cons c cs ih =>
    rcases camel_cases h with ⟨p, rfl, small, capital, rest⟩ | ⟨small, rest⟩
    · obtain ⟨_, _, _, letter⟩ := case_of_isUpper capital
      rw [underscored_of_isUpper small capital]
      exact List.forall_mem_cons.mpr ⟨.inr rfl, List.forall_mem_cons.mpr ⟨.inl letter, ih rest⟩⟩
    · rw [underscored_of_isSmall small]
      exact List.forall_mem_cons.mpr ⟨.inl (isAlphanum_of_isSmall small), ih rest⟩

theorem CamelCase.asciiWord (h : CamelCase name) :
    AsciiWord (String.ofList (underscored none name.toList)) := by
  obtain ⟨c, cs, shape, letter⟩ := starts_of_part h
  have camel : Identifier.isCamel ((none : Option Char).any isSmall) name.toList = true := h.isCamel
  rw [AsciiWord, String.toList_ofList]
  refine ⟨?_, forall_mem_underscored camel⟩
  have small := isSmall_of_isLower letter
  rw [shape, underscored_of_isSmall small]
  simp [Char.isAlpha, letter]

theorem CamelCase.request_not_reserved (h : CamelCase name) : request name ∉ reservedWords := by
  intro reserved
  have keyword := (isKeyword_iff_of_capitalWord h.capitalWord).mp (isKeyword_of_reserved reserved)
  have long := congrArg (fun word : String => word.toList.length) keyword
  rw [request, String.toList_append, List.length_append] at long
  have ending : "Request".toList.length = 7 := by decide
  have short : "Self".toList.length = 4 := by decide
  omega

end Convention

/-- **Names by convention.** Different fields have different members, different operations have
different methods and different request types, and all these are identifiers of Rust and no bare
keywords. -/
theorem identifiers_of_convention (L : Letters) :
    (Set.InjOn field {wire | SnakeCase wire} ∧ ∀ wire, SnakeCase wire → L.IsLegal (field wire)) ∧
    (Set.InjOn method {operation | CamelCase operation} ∧
      ∀ operation, CamelCase operation → L.IsLegal (method operation)) ∧
    (Set.InjOn request {operation | CamelCase operation} ∧
      ∀ operation, CamelCase operation → L.IsLegal (request operation)) := by
  refine ⟨⟨?_, ?_⟩, ⟨?_, ?_⟩, ⟨?_, ?_⟩⟩
  · intro a ha b hb same
    exact field_injective ha.isSnake hb.isSnake same
  · intro wire h
    exact isLegal_escape L h.capitalWord.asciiWord
  · intro a ha b hb same
    exact method_injective ha.isCamel hb.isCamel same
  · intro operation h
    exact isLegal_escape L h.asciiWord
  · intro a ha b hb same
    exact request_injective ha.isCamel hb.isCamel same
  · intro operation h
    exact .inl ⟨h.capitalWord.isWord L, h.request_not_reserved⟩

theorem identifiers_of_keywords :
    ((SnakeCase "self" ∧ SnakeCase "reply_to2") ∧ CamelCase "type" ∧ CamelCase "getMe2Now") ∧
    (field "self" = "Self_" ∧ Letters.ascii.IsLegal "Self_" ∧ field "self" ≠ field "reply_to2") ∧
    (method "type" = "r#type" ∧ Letters.ascii.IsLegal "r#type" ∧
      method "type" ≠ method "getMe2Now") ∧
    (request "type" = "TypeRequest" ∧ Letters.ascii.IsLegal "TypeRequest" ∧
      request "type" ≠ request "getMe2Now") := by
  obtain ⟨⟨fields, members⟩, ⟨methods, called⟩, ⟨requests, types⟩⟩ :=
    identifiers_of_convention Letters.ascii
  have self : SnakeCase "self" := by decide +kernel
  have reply : SnakeCase "reply_to2" := by decide +kernel
  have type : CamelCase "type" := by decide +kernel
  have getMe : CamelCase "getMe2Now" := by decide +kernel
  refine ⟨⟨⟨self, reply⟩, type, getMe⟩, ⟨by decide, members "self" self, ?_⟩,
    ⟨by decide, called "type" type, ?_⟩, ⟨by decide, types "type" type, ?_⟩⟩
  · exact fields.ne self reply (by decide)
  · exact methods.ne type getMe (by decide)
  · exact requests.ne type getMe (by decide)

end ApiReference.Identifier
