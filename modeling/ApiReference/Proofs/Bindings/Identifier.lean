import ApiReference.Bindings.Identifier
import ApiReference.Proofs.Text.Case

/-!
Identifiers of the generated source. Making one adds no character below the capitals apart from the
mark of a raw identifier (`mem_of_mem_field`, `mem_of_mem_method`). Names that follow the convention
of the wire format come back from their identifiers, so different ones have different identifiers.
-/

namespace ApiReference.Identifier

/-! ## Characters -/

section Characters

variable {c : Char}

theorem mem_of_mem_capitalized (visible : 0 < c.toNat) (low : c.toNat < 0x41) {start : Bool}
    {cs : List Char} (h : c ∈ capitalized start cs) : c ∈ cs := by
  fun_induction capitalized start cs with
  | case1 => exact h
  | case2 start d cs _ ih => exact List.mem_cons_of_mem d (ih h)
  | case3 d cs _ ih =>
    rcases List.mem_append.mp h with first | later
    · rw [Text.eq_of_mem_upper first visible low]
      exact List.mem_cons_self
    · exact List.mem_cons_of_mem d (ih later)
  | case4 start d cs _ _ ih =>
    rcases List.mem_cons.mp h with rfl | later
    · exact List.mem_cons_self
    · exact List.mem_cons_of_mem d (ih later)

theorem mem_of_mem_underscored (visible : 0 < c.toNat) (low : c.toNat < 0x41)
    {before : Option Char} {cs : List Char} (h : c ∈ underscored before cs) : c ∈ cs := by
  induction cs generalizing before with
  | nil => cases h
  | cons d cs ih =>
    rw [underscored, List.mem_append, List.mem_append] at h
    rcases h with (mark | first) | later
    · split at mark
      · rw [List.mem_singleton.mp mark] at low
        exact absurd low (by decide)
      · cases mark
    · rw [Text.eq_of_mem_lower first visible low]
      exact List.mem_cons_self
    · exact List.mem_cons_of_mem d (ih later)

theorem mem_of_mem_escape (low : c.toNat < 0x41) (plain : c ≠ '#') {name : String}
    (h : c ∈ (escape name).toList) : c ∈ name.toList := by
  unfold escape at h
  split at h
  · rw [String.toList_append, List.mem_append] at h
    rcases h with among | mark
    · exact among
    · obtain rfl : c = '_' := by simpa using mark
      exact absurd low (by decide)
  · split at h
    · rw [String.toList_append, List.mem_append] at h
      rcases h with mark | among
      · obtain rfl | rfl : c = 'r' ∨ c = '#' := by simpa using mark
        · exact absurd low (by decide)
        · exact absurd rfl plain
      · exact among
    · exact h

theorem mem_of_mem_field (visible : 0 < c.toNat) (low : c.toNat < 0x41) (plain : c ≠ '#')
    {wire : String} (h : c ∈ (field wire).toList) : c ∈ wire.toList := by
  have among := mem_of_mem_escape low plain h
  rw [pascalCase, String.toList_ofList] at among
  exact mem_of_mem_capitalized visible low among

theorem mem_of_mem_request (visible : 0 < c.toNat) (low : c.toNat < 0x41) {operation : String}
    (h : c ∈ (request operation).toList) : c ∈ operation.toList := by
  rw [request, String.toList_append, List.mem_append] at h
  rcases h with among | ending
  · rw [pascalCase, String.toList_ofList] at among
    exact mem_of_mem_capitalized visible low among
  · have high : "Request".toList.all (fun d => !decide (d.toNat < 0x41)) = true := by decide
    exact absurd low (by simpa using List.all_eq_true.mp high c ending)

theorem mem_of_mem_method (visible : 0 < c.toNat) (low : c.toNat < 0x41) (plain : c ≠ '#')
    {operation : String} (h : c ∈ (method operation).toList) : c ∈ operation.toList := by
  have among := mem_of_mem_escape low plain h
  rw [String.toList_ofList] at among
  exact mem_of_mem_underscored visible low among

end Characters

/-! ## Names that follow the convention -/

/-- The small letters and the digits of ASCII. -/
def isSmall (c : Char) : Bool := c.isLower || c.isDigit

/-- Whether a name of the wire format is one of parts with an underscore between any two, each a
small letter with small letters and digits after it. `start` says whether a part has to open. -/
def isSnake (start : Bool) : List Char → Bool
  | [] => !start
  | c :: cs =>
    if c == '_' then !start && isSnake true cs
    else (if start then c.isLower else isSmall c) && isSnake false cs

/-- Whether the name of an operation is one of ASCII letters and digits without two capitals in a
row. `inside` says whether a capital may come next. -/
def isCamel (inside : Bool) : List Char → Bool
  | [] => true
  | c :: cs => if c.isUpper then inside && isCamel false cs else isSmall c && isCamel true cs

section Ascii

variable {c : Char}

private theorem of_ascii {P : Char → Prop} (all : ∀ n < 0x80, P (Char.ofNat n))
    (ascii : c.toNat < 0x80) : P c := by
  have here := all c.toNat ascii
  rwa [Char.ofNat_toNat] at here

theorem ascii_of_isAlphanum (h : c.isAlphanum = true) : c.toNat < 0x80 := by
  simp only [Char.isAlphanum, Char.isAlpha, Char.isUpper, Char.isLower, Char.isDigit,
    Bool.or_eq_true, Bool.and_eq_true, decide_eq_true_eq, UInt32.le_iff_toNat_le] at h
  have bound : c.val.toNat ≤ 122 := by
    rcases h with (⟨_, up⟩ | ⟨_, up⟩) | ⟨_, up⟩
    · exact up.trans (by decide)
    · exact up
    · exact up.trans (by decide)
  exact Nat.lt_of_le_of_lt bound (by decide)

theorem isAlphanum_of_isSmall (h : isSmall c = true) : c.isAlphanum = true := by
  rw [isSmall, Bool.or_eq_true] at h
  rw [Char.isAlphanum, Char.isAlpha]
  rcases h with letter | digit
  · simp [letter]
  · simp [digit]

theorem isAlphanum_of_isUpper (h : c.isUpper = true) : c.isAlphanum = true := by
  simp [Char.isAlphanum, Char.isAlpha, h]

theorem not_isSmall_of_isUpper (h : c.isUpper = true) : isSmall c = false :=
  of_ascii (P := fun c => c.isUpper = true → isSmall c = false) (by decide +kernel)
    (ascii_of_isAlphanum (isAlphanum_of_isUpper h)) h

theorem ne_of_isAlphanum (h : c.isAlphanum = true) : c ≠ '_' ∧ c ≠ '#' := by
  constructor
  · rintro rfl
    cases h
  · rintro rfl
    cases h

/-- A small letter or digit is its own small form, and the small form of its capital form. -/
theorem case_of_isSmall (h : isSmall c = true) :
    c.isUpper = false ∧ Text.isUpper c = false ∧ Text.lower c = [c] ∧
      Text.upper c = [c.toUpper] ∧ c.toUpper.toLower = c ∧ c.toUpper.isAlphanum = true :=
  of_ascii (P := fun c => isSmall c = true →
    c.isUpper = false ∧ Text.isUpper c = false ∧ Text.lower c = [c] ∧
      Text.upper c = [c.toUpper] ∧ c.toUpper.toLower = c ∧ c.toUpper.isAlphanum = true)
    (by decide +kernel) (ascii_of_isAlphanum (isAlphanum_of_isSmall h)) h

theorem isUpper_toUpper (h : c.isLower = true) : c.toUpper.isUpper = true :=
  of_ascii (P := fun c => c.isLower = true → c.toUpper.isUpper = true) (by decide +kernel)
    (ascii_of_isAlphanum (isAlphanum_of_isSmall (by simp [isSmall, h]))) h

/-- A capital is the capital form of its small form. -/
theorem case_of_isUpper (h : c.isUpper = true) :
    Text.isUpper c = true ∧ Text.lower c = [c.toLower] ∧ Text.upper c.toLower = [c] ∧
      c.toLower.isAlphanum = true :=
  of_ascii (P := fun c => c.isUpper = true →
    Text.isUpper c = true ∧ Text.lower c = [c.toLower] ∧ Text.upper c.toLower = [c] ∧
      c.toLower.isAlphanum = true)
    (by decide +kernel) (ascii_of_isAlphanum (isAlphanum_of_isUpper h)) h

end Ascii

/-! ### Members -/

theorem isSnake_cons {start : Bool} {c : Char} {cs : List Char} (small : ¬(c == '_') = true)
    (h : isSnake start (c :: cs) = true) :
    isSmall c = true ∧ (start = true → c.isLower = true) ∧ isSnake false cs = true := by
  rw [isSnake, if_neg small, Bool.and_eq_true] at h
  refine ⟨?_, ?_, h.2⟩
  · have first := h.1
    split at first
    · simp [isSmall, first]
    · exact first
  · rintro rfl
    simpa using h.1

theorem isSnake_underscore {start : Bool} {cs : List Char}
    (h : isSnake start ('_' :: cs) = true) : start = false ∧ isSnake true cs = true := by
  simpa [isSnake] using h

/-- The name that an identifier in capitals was made from: small letters, with an underscore before
each capital. -/
def uncapitalized (cs : List Char) : List Char :=
  cs.flatMap fun c => if c.isUpper then ['_', c.toLower] else [c]

theorem uncapitalized_capitalized {start : Bool} {cs : List Char} (h : isSnake start cs = true) :
    uncapitalized (capitalized start cs) = if start then '_' :: cs else cs := by
  fun_induction capitalized start cs with
  | case1 start =>
    cases start with
    | true => cases h
    | false => rfl
  | case2 start c cs mark ih =>
    obtain rfl : c = '_' := by simpa using mark
    obtain ⟨rfl, rest⟩ := isSnake_underscore h
    exact ih rest
  | case3 c cs small ih =>
    obtain ⟨isSmall, letter, rest⟩ := isSnake_cons small h
    obtain ⟨_, _, _, upper, back, _⟩ := case_of_isSmall isSmall
    rw [upper, List.singleton_append, uncapitalized, List.flatMap_cons, ← uncapitalized, ih rest,
      if_pos (isUpper_toUpper (letter rfl)), back]
    rfl
  | case4 start c cs small begun ih =>
    obtain ⟨isSmall, _, rest⟩ := isSnake_cons small h
    obtain ⟨lower, _⟩ := case_of_isSmall isSmall
    rw [uncapitalized, List.flatMap_cons, ← uncapitalized, ih rest, if_neg (by simp [lower]),
      if_neg begun]
    rfl

theorem isAlphanum_of_mem_capitalized {start : Bool} {cs : List Char}
    (h : isSnake start cs = true) : ∀ c ∈ capitalized start cs, c.isAlphanum = true := by
  fun_induction capitalized start cs with
  | case1 => simp
  | case2 start c cs mark ih =>
    obtain rfl : c = '_' := by simpa using mark
    exact ih (isSnake_underscore h).2
  | case3 c cs small ih =>
    obtain ⟨isSmall, _, rest⟩ := isSnake_cons small h
    obtain ⟨_, _, _, upper, _, letter⟩ := case_of_isSmall isSmall
    rw [upper]
    exact List.forall_mem_cons.mpr ⟨letter, ih rest⟩
  | case4 start c cs small begun ih =>
    obtain ⟨isSmall, _, rest⟩ := isSnake_cons small h
    exact List.forall_mem_cons.mpr ⟨isAlphanum_of_isSmall isSmall, ih rest⟩

/-! ### Methods -/

theorem isCamel_cons {inside : Bool} {c : Char} {cs : List Char}
    (h : isCamel inside (c :: cs) = true) :
    (c.isUpper = true ∧ inside = true ∧ isCamel false cs = true) ∨
      (isSmall c = true ∧ isCamel true cs = true) := by
  rw [isCamel] at h
  split at h
  · rename_i capital
    exact .inl ⟨capital, Bool.and_eq_true_iff.mp h⟩
  · exact .inr (Bool.and_eq_true_iff.mp h)

theorem startsWord_of_isUpper {p c : Char} (small : isSmall p = true) (capital : c.isUpper = true)
    (after : Option Char) : startsWord (some p) c after = true := by
  obtain ⟨upper, _⟩ := case_of_isUpper capital
  rw [isSmall, Bool.or_eq_true] at small
  rw [startsWord, upper, Text.isLower]
  rcases small with letter | digit
  · simp [letter]
  · simp [digit]

theorem not_startsWord_of_isSmall {c : Char} (small : isSmall c = true)
    (before after : Option Char) : startsWord before c after = false := by
  obtain ⟨_, upper, _⟩ := case_of_isSmall small
  cases before with
  | none => rfl
  | some p => rw [startsWord, upper, Bool.false_and]

theorem underscored_of_isUpper {p c : Char} (small : isSmall p = true) (capital : c.isUpper = true)
    (cs : List Char) :
    underscored (some p) (c :: cs) = '_' :: c.toLower :: underscored (some c) cs := by
  obtain ⟨_, lower, _⟩ := case_of_isUpper capital
  rw [underscored, if_pos (startsWord_of_isUpper small capital _), lower]
  rfl

theorem underscored_of_isSmall {c : Char} (small : isSmall c = true) (before : Option Char)
    (cs : List Char) : underscored before (c :: cs) = c :: underscored (some c) cs := by
  obtain ⟨_, _, lower, _⟩ := case_of_isSmall small
  rw [underscored, not_startsWord_of_isSmall small, lower]
  rfl

theorem capitalized_cons {c : Char} (letter : c.isAlphanum = true) (start : Bool) (cs : List Char) :
    capitalized start (c :: cs) =
      (if start then Text.upper c else [c]) ++ capitalized false cs := by
  rw [capitalized, if_neg (by simpa using (ne_of_isAlphanum letter).1)]
  cases start <;> rfl

/-- A name that may go on with a capital if the character before it is small goes on with a capital
after a small character, or with a small one. -/
theorem camel_cases {before : Option Char} {c : Char} {cs : List Char}
    (h : isCamel (before.any isSmall) (c :: cs) = true) :
    (∃ p, before = some p ∧ isSmall p = true ∧ c.isUpper = true ∧
        isCamel ((some c).any isSmall) cs = true) ∨
      (isSmall c = true ∧ isCamel ((some c).any isSmall) cs = true) := by
  rcases isCamel_cons h with ⟨capital, inside, rest⟩ | ⟨small, rest⟩
  · cases before with
    | none => cases inside
    | some p =>
      refine .inl ⟨p, rfl, inside, capital, ?_⟩
      rw [Option.any_some, not_isSmall_of_isUpper capital]
      exact rest
  · refine .inr ⟨small, ?_⟩
    rw [Option.any_some, small]
    exact rest

/-- A capital put back at each underscore makes the name again. -/
theorem capitalized_underscored {before : Option Char} {cs : List Char}
    (h : isCamel (before.any isSmall) cs = true) :
    capitalized false (underscored before cs) = cs := by
  -- The character before tells whether a capital may come, so it changes along with the name.
  induction cs generalizing before with
  | nil => rfl
  | cons c cs ih =>
    rcases camel_cases h with ⟨p, rfl, small, capital, rest⟩ | ⟨small, rest⟩
    · obtain ⟨_, _, upper, letter⟩ := case_of_isUpper capital
      have mark (ds : List Char) : capitalized false ('_' :: ds) = capitalized true ds := rfl
      rw [underscored_of_isUpper small capital, mark, capitalized_cons letter, if_pos rfl, upper,
        ih rest]
      rfl
    · rw [underscored_of_isSmall small, capitalized_cons (isAlphanum_of_isSmall small), ih rest]
      rfl

/-- Whether a text neither holds the mark of raw identifiers nor ends in an underscore. -/
def Plain (cs : List Char) : Prop := '#' ∉ cs ∧ cs.getLast? ≠ some '_'

theorem plain_cons {c : Char} {cs : List Char} (letter : c.isAlphanum = true) (h : Plain cs) :
    Plain (c :: cs) := by
  obtain ⟨mark, hash⟩ := ne_of_isAlphanum letter
  refine ⟨?_, ?_⟩
  · rw [List.mem_cons, not_or]
    exact ⟨hash.symm, h.1⟩
  · cases cs with
    | nil => simpa using mark
    | cons d ds =>
      rw [List.getLast?_cons_cons]
      exact h.2

theorem plain_of_forall {cs : List Char} (letters : ∀ c ∈ cs, c.isAlphanum = true) : Plain cs := by
  induction cs with
  | nil => exact ⟨by simp, by simp⟩
  | cons c cs ih =>
    obtain ⟨letter, later⟩ := List.forall_mem_cons.mp letters
    exact plain_cons letter (ih later)

theorem plain_underscored {before : Option Char} {cs : List Char}
    (h : isCamel (before.any isSmall) cs = true) : Plain (underscored before cs) := by
  induction cs generalizing before with
  | nil => exact plain_of_forall (by simp [underscored])
  | cons c cs ih =>
    rcases camel_cases h with ⟨p, rfl, small, capital, rest⟩ | ⟨small, rest⟩
    · obtain ⟨_, _, _, letter⟩ := case_of_isUpper capital
      rw [underscored_of_isUpper small capital]
      obtain ⟨plain, ends⟩ := plain_cons letter (ih rest)
      refine ⟨?_, ?_⟩
      · rw [List.mem_cons, not_or]
        exact ⟨by decide, plain⟩
      · rw [List.getLast?_cons_cons]
        exact ends
    · rw [underscored_of_isSmall small]
      exact plain_cons (isAlphanum_of_isSmall small) (ih rest)

/-! ### Different names -/

theorem escape_cases (name : String) :
    (escape name).toList = name.toList ++ ['_'] ∨
      (escape name).toList = 'r' :: '#' :: name.toList ∨ (escape name).toList = name.toList := by
  unfold escape
  split
  · exact .inl (by simp)
  · split
    · exact .inr (.inl (by simp))
    · exact .inr (.inr rfl)

/-- Making names safe keeps different ones apart. -/
theorem escape_injective {a b : String} (ha : Plain a.toList) (hb : Plain b.toList)
    (h : escape a = escape b) : a = b := by
  have ending (cs : List Char) : (cs ++ ['_']).getLast? = some '_' := by simp
  rw [← String.toList_inj] at h ⊢
  rcases escape_cases a with underA | rawA | sameA
  · rcases escape_cases b with underB | rawB | sameB
    · rw [underA, underB] at h
      exact List.append_cancel_right h
    · rw [underA, rawB] at h
      have mark : '#' ∈ a.toList ++ ['_'] := by simp [h]
      exact absurd (by simpa using mark) ha.1
    · rw [underA, sameB] at h
      exact absurd (by rw [← h, ending]) hb.2
  · rcases escape_cases b with underB | rawB | sameB
    · rw [rawA, underB] at h
      have mark : '#' ∈ b.toList ++ ['_'] := by simp [← h]
      exact absurd (by simpa using mark) hb.1
    · rw [rawA, rawB] at h
      simpa using h
    · rw [rawA, sameB] at h
      exact absurd (by simp [← h]) hb.1
  · rcases escape_cases b with underB | rawB | sameB
    · rw [sameA, underB] at h
      exact absurd (by rw [h, ending]) ha.2
    · rw [sameA, rawB] at h
      exact absurd (by simp [h]) ha.1
    · rw [sameA, sameB] at h
      exact h

/-- Different names of the wire format that follow the convention have different members. -/
theorem field_injective {a b : String} (ha : isSnake true a.toList = true)
    (hb : isSnake true b.toList = true) (h : field a = field b) : a = b := by
  have plain {name : String} (snake : isSnake true name.toList = true) :
      Plain (pascalCase name).toList := by
    rw [pascalCase, String.toList_ofList]
    exact plain_of_forall (isAlphanum_of_mem_capitalized snake)
  have same := escape_injective (plain ha) (plain hb) h
  rw [← String.toList_inj, pascalCase, pascalCase, String.toList_ofList, String.toList_ofList]
    at same
  have back := congrArg uncapitalized same
  rw [uncapitalized_capitalized ha, uncapitalized_capitalized hb] at back
  exact String.toList_inj.mp (by simpa using back)

/-- Names that do not follow it can share one. -/
example : field "a_b" = field "aB" := by decide

/-- Different operations whose names follow the convention have different methods. -/
theorem method_injective {a b : String} (ha : isCamel false a.toList = true)
    (hb : isCamel false b.toList = true) (h : method a = method b) : a = b := by
  have plain {name : String} (camel : isCamel false name.toList = true) :
      Plain (String.ofList (underscored none name.toList)).toList := by
    rw [String.toList_ofList]
    exact plain_underscored camel
  have same := escape_injective (plain ha) (plain hb) h
  rw [← String.toList_inj, String.toList_ofList, String.toList_ofList] at same
  have back {cs : List Char} (camel : isCamel false cs = true) :
      capitalized false (underscored none cs) = cs := capitalized_underscored camel
  have names := congrArg (capitalized false) same
  rw [back ha, back hb] at names
  exact String.toList_inj.mp names

theorem capitalized_camel {inside : Bool} {cs : List Char} (h : isCamel inside cs = true) :
    capitalized false cs = cs := by
  induction cs generalizing inside with
  | nil => rfl
  | cons c cs ih =>
    rcases isCamel_cons h with ⟨capital, _, rest⟩ | ⟨small, rest⟩
    · rw [capitalized_cons (isAlphanum_of_isUpper capital), ih rest]
      rfl
    · rw [capitalized_cons (isAlphanum_of_isSmall small), ih rest]
      rfl

/-- Different operations whose names follow the convention have different request types. -/
theorem request_injective {a b : String} (ha : isCamel false a.toList = true)
    (hb : isCamel false b.toList = true) (h : request a = request b) : a = b := by
  have back {cs : List Char} (camel : isCamel false cs = true) :
      (capitalized true cs).modifyHead Char.toLower = cs := by
    cases cs with
    | nil => rfl
    | cons c cs =>
      rcases isCamel_cons camel with ⟨_, inside, _⟩ | ⟨small, rest⟩
      · cases inside
      · obtain ⟨_, _, _, upper, lower, _⟩ := case_of_isSmall small
        rw [capitalized_cons (isAlphanum_of_isSmall small), if_pos rfl, upper,
          capitalized_camel rest, List.singleton_append, List.modifyHead_cons, lower]
  rw [request, request, ← String.toList_inj, String.toList_append, String.toList_append] at h
  have same := List.append_cancel_right h
  rw [pascalCase, pascalCase, String.toList_ofList, String.toList_ofList] at same
  have heads := congrArg (List.modifyHead Char.toLower) same
  rw [back ha, back hb] at heads
  exact String.toList_inj.mp heads

end ApiReference.Identifier
