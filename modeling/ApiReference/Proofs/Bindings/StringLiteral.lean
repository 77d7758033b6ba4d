import Mathlib
import ApiReference.Json.Parsed

/-!
String literals of generated source, as a reader of Rust takes them. A text that was put between
quotes as it is denotes itself just if it holds no quote, no backslash and no carriage return
(`denoted?_eq_self_iff`).
-/

namespace ApiReference.StringLiteral

/-! ## Reading literals -/

/-- Source as it is read: a carriage return before a line feed is dropped. -/
def normalized : List Char → List Char
  | [] => []
  | '\r' :: '\n' :: cs => '\n' :: normalized cs
  | c :: cs => c :: normalized cs

/-- The white space that is passed over after a backslash at the end of a line. -/
def isPassedOver (c : Char) : Bool := c == ' ' || c == '\t' || c == '\n' || c == '\r'

/-- The character with the number that hexadecimal digits make, if it is one and there are one to
six of them. Underscores after the first digit do not count. -/
def scalar? (digits : List Char) : Option Char := do
  if digits.head? == some '_' then none
  else
    let values ← (digits.filter (· != '_')).mapM Json.hexValue?
    let n := values.foldl (fun n value => 16 * n + value) 0
    if 1 ≤ values.length ∧ values.length ≤ 6 ∧ n.isValidChar then some (Char.ofNat n) else none

/-- What stands for itself behind a backslash or has a meaning of its own there. -/
def marked? : Char → Option Char
  | 'n' => some '\n'
  | 'r' => some '\r'
  | 't' => some '\t'
  | '0' => some '\x00'
  | '\\' => some '\\'
  | '\'' => some '\''
  | '"' => some '"'
  | _ => none

/-- What an escape denotes, read from behind its backslash, and the number of its characters
there. -/
def escape? : List Char → Option (List Char × Nat)
  | '\n' :: cs => some ([], 1 + (cs.takeWhile isPassedOver).length)
  | 'x' :: a :: b :: _ => do
    let n := 16 * (← Json.hexValue? a) + (← Json.hexValue? b)
    if n < 0x80 then some ([Char.ofNat n], 3) else none
  | 'u' :: '{' :: cs => do
    let digits := cs.takeWhile (· != '}')
    if '}' ∈ cs then some ([← scalar? digits], digits.length + 3) else none
  | c :: _ => (marked? c).map fun d => ([d], 1)
  | [] => none

/-- What a literal denotes and what follows it, read from behind its opening quote and `skip` further
characters. -/
def readFrom : Nat → List Char → Option (List Char × List Char)
  | _, [] => none
  | skip + 1, _ :: cs => readFrom skip cs
  | 0, c :: cs =>
    if c == '"' then some ([], cs)
    else if c == '\r' then none
    else if c == '\\' then do
      let (value, length) ← escape? cs
      let (later, rest) ← readFrom length cs
      return (value ++ later, rest)
    else do
      let (later, rest) ← readFrom 0 cs
      return (c :: later, rest)

/-- The text that a literal denotes, read from behind its opening quote. -/
def denoted? (source : List Char) : Option String :=
  (readFrom 0 (normalized source)).map fun reading => String.ofList reading.1

/-- Whether a text has none of the characters that mean something else in a literal: no quote, no
backslash and no carriage return. -/
def Plain (cs : List Char) : Prop := ∀ c ∈ cs, c ≠ '"' ∧ c ≠ '\\' ∧ c ≠ '\r'

example : denoted? "a\\tb\\u\x7b41\x7d\\x41\\\n   c\" x".toList = some "a\tbAAc" := by decide

/-! ## What escapes cost -/

/-- Whether an escape that takes up `taken` behind its backslash denotes one character at most, and a
quote if it holds one. -/
structure Shortens (taken value : List Char) : Prop where
  nonempty : taken ≠ []
  short : value.length ≤ 1
  quote : '"' ∈ taken → value = ['"']

theorem shortens_of_hexadecimal {a b d : Char} {m n : Nat} (ha : Json.hexValue? a = some m)
    (hb : Json.hexValue? b = some n) : Shortens ['x', a, b] [d] := by
  have digit {c : Char} {k : Nat} (hc : Json.hexValue? c = some k) : c ≠ '"' := by
    rintro rfl
    cases hc
  constructor
  · simp
  · simp
  · intro quote
    simp [(digit ha).symm, (digit hb).symm] at quote

theorem isSome_of_mapM {α β : Type} {f : α → Option β} {as : List α} {bs : List β}
    (h : as.mapM f = some bs) : ∀ a ∈ as, (f a).isSome = true := by
  induction as generalizing bs with
  | nil => simp
  | cons a as ih =>
    rw [List.mapM_cons] at h
    obtain ⟨b, first, h⟩ := Option.bind_eq_some_iff.mp h
    obtain ⟨rest, later, -⟩ := Option.bind_eq_some_iff.mp h
    exact List.forall_mem_cons.mpr ⟨by rw [first]; rfl, ih later⟩

theorem not_quote_of_scalar? {digits : List Char} {c : Char} (h : scalar? digits = some c) :
    '"' ∉ digits := by
  intro quote
  have kept : '"' ∈ digits.filter (· != '_') := List.mem_filter.mpr ⟨quote, by decide⟩
  unfold scalar? at h
  split at h
  · cases h
  · obtain ⟨values, read, -⟩ := Option.bind_eq_some_iff.mp h
    cases isSome_of_mapM read '"' kept

theorem shortens_of_braced {digits : List Char} {c : Char} (h : scalar? digits = some c) :
    Shortens ('u' :: '{' :: (digits ++ ['}'])) [c] := by
  have free := not_quote_of_scalar? h
  constructor
  · simp
  · simp
  · intro quote
    simp [free] at quote

theorem shortens_of_marked {c d : Char} (h : marked? c = some d) : Shortens [c] [d] := by
  constructor
  · simp
  · simp
  · intro quote
    rw [← List.mem_singleton.mp quote] at h
    cases h
    rfl

theorem shortens_of_passedOver (cs : List Char) :
    Shortens ('\n' :: cs.takeWhile isPassedOver) [] := by
  constructor
  · simp
  · simp
  · intro quote
    have among : '"' ∈ cs.takeWhile isPassedOver := by simpa using quote
    cases List.mem_takeWhile_imp among

/-- An escape takes up characters behind its backslash and shortens them. -/
theorem shortens_of_escape? {cs value : List Char} {n : Nat} (h : escape? cs = some (value, n)) :
    ∃ taken rest, cs = taken ++ rest ∧ taken.length = n ∧ Shortens taken value := by
  unfold escape? at h
  split at h
  · rename_i cs
    obtain ⟨rfl, rfl⟩ : [] = value ∧ _ = n := by simpa using h
    refine ⟨_, cs.dropWhile isPassedOver, ?_, ?_, shortens_of_passedOver cs⟩
    · simp
    · simp [Nat.add_comm]
  · rename_i a b rest
    obtain ⟨first, ha, h⟩ := Option.bind_eq_some_iff.mp h
    obtain ⟨second, hb, h⟩ := Option.bind_eq_some_iff.mp h
    dsimp only at h
    split at h
    · obtain ⟨rfl, rfl⟩ : _ = value ∧ 3 = n := by simpa using h
      exact ⟨['x', a, b], rest, rfl, rfl, shortens_of_hexadecimal ha hb⟩
    · cases h
  · rename_i cs
    dsimp only at h
    split at h
    · rename_i closed
      obtain ⟨c, read, h⟩ := Option.bind_eq_some_iff.mp h
      obtain ⟨rfl, rfl⟩ : _ = value ∧ _ = n := by simpa using h
      obtain ⟨digits, rest, rfl, open'⟩ := List.eq_append_cons_of_mem closed
      have taken : (digits ++ '}' :: rest).takeWhile (· != '}') = digits := by
        rw [List.takeWhile_append_of_pos, List.takeWhile_cons_of_neg (by simp), List.append_nil]
        intro c hc
        rw [bne_iff_ne]
        rintro rfl
        exact open' hc
      rw [taken] at read ⊢
      exact ⟨_, rest, by simp, by simp, shortens_of_braced read⟩
    · cases h
  · rename_i c rest _ _ _
    obtain ⟨d, own, h⟩ := Option.map_eq_some_iff.mp h
    obtain ⟨rfl, rfl⟩ : [d] = value ∧ 1 = n := by simpa using h
    exact ⟨[c], rest, rfl, rfl, shortens_of_marked own⟩
  · cases h

/-! ## What literals denote -/

/-- Whether a literal denotes a shorter text, in which the first quote comes earlier. -/
structure Condenses (body value : List Char) : Prop where
  shorter : value.length < body.length
  earlier : '"' ∈ body → value.idxOf '"' < body.idxOf '"'

/-- Whether a literal denotes itself, without any mark, or is condensed. -/
def Denotes (body value : List Char) : Prop := body = value ∧ Plain body ∨ Condenses body value

theorem Denotes.cons {c : Char} {body value : List Char} (plain : c ≠ '"' ∧ c ≠ '\\' ∧ c ≠ '\r')
    (h : Denotes body value) : Denotes (c :: body) (c :: value) := by
  rcases h with ⟨rfl, rest⟩ | ⟨shorter, earlier⟩
  · exact .inl ⟨rfl, List.forall_mem_cons.mpr ⟨plain, rest⟩⟩
  · refine .inr ⟨by simpa using shorter, fun quote => ?_⟩
    have later : '"' ∈ body := by simpa [plain.1.symm] using quote
    have first := earlier later
    rw [List.idxOf_cons_ne _ plain.1, List.idxOf_cons_ne _ plain.1]
    omega

theorem Denotes.length_le {body value : List Char} (h : Denotes body value) :
    value.length ≤ body.length := by
  rcases h with ⟨rfl, -⟩ | condensed
  · exact le_rfl
  · exact condensed.shorter.le

theorem Denotes.idxOf_le {body value : List Char} (h : Denotes body value) (quote : '"' ∈ body) :
    value.idxOf '"' ≤ body.idxOf '"' := by
  rcases h with ⟨rfl, -⟩ | condensed
  · exact le_rfl
  · exact (condensed.earlier quote).le

/-- A literal with an escape is condensed. -/
theorem Denotes.escape {taken piece body value : List Char} (short : Shortens taken piece)
    (h : Denotes body value) : Condenses ('\\' :: (taken ++ body)) (piece ++ value) := by
  have length_le := h.length_le
  have piece_le := short.short
  have taken_pos := List.length_pos_iff.mpr short.nonempty
  constructor
  · simp only [List.length_append, List.length_cons]
    omega
  · intro quote
    by_cases inside : '"' ∈ taken
    · rw [short.quote inside]
      simp
    · have later : '"' ∈ body := by simpa [inside] using quote
      have first := h.idxOf_le later
      have piece_idxOf_le : (piece ++ value).idxOf '"' ≤ piece.length + value.idxOf '"' := by
        rw [List.idxOf_append]
        split
        · rename_i among
          have within := List.idxOf_lt_length_iff.mpr among
          omega
        · omega
      rw [List.idxOf_cons_ne _ (by decide), List.idxOf_append_of_notMem inside]
      omega

/-- What is read is a literal up to a quote, and what that denotes. -/
theorem denotes_of_readFrom {skip : Nat} {cs value rest : List Char}
    (h : readFrom skip cs = some (value, rest)) :
    ∃ skipped body, cs = skipped ++ (body ++ '"' :: rest) ∧ skipped.length = skip ∧
      Denotes body value := by
  fun_induction readFrom skip cs generalizing value rest with
  | case1 => cases h
  | case2 skip c cs ih =>
    obtain ⟨skipped, body, rfl, rfl, denotes⟩ := ih h
    exact ⟨c :: skipped, body, rfl, rfl, denotes⟩
  | case3 c cs quote =>
    obtain ⟨rfl, rfl⟩ : [] = value ∧ cs = rest := by simpa using h
    obtain rfl : c = '"' := by simpa using quote
    exact ⟨[], [], rfl, rfl, .inl ⟨rfl, by simp [Plain]⟩⟩
  | case4 => cases h
  | case5 c cs _ _ mark ih =>
    obtain rfl : c = '\\' := by simpa using mark
    obtain ⟨⟨piece, length⟩, escape, h⟩ := Option.bind_eq_some_iff.mp h
    obtain ⟨⟨later, rest'⟩, read, h⟩ := Option.bind_eq_some_iff.mp h
    obtain ⟨rfl, rfl⟩ : piece ++ later = value ∧ rest' = rest := by simpa using h
    obtain ⟨taken, cs', whole, taken_length, short⟩ := shortens_of_escape? escape
    obtain ⟨skipped, body, rfl, skipped_length, denotes⟩ := ih length read
    obtain ⟨rfl, -⟩ := List.append_inj whole (skipped_length.trans taken_length.symm)
    exact ⟨[], '\\' :: (skipped ++ body), by simp, rfl, .inr (denotes.escape short)⟩
  | case6 c cs quote feed mark ih =>
    obtain ⟨⟨later, rest'⟩, read, h⟩ := Option.bind_eq_some_iff.mp h
    obtain ⟨rfl, rfl⟩ : c :: later = value ∧ rest' = rest := by simpa using h
    obtain ⟨skipped, body, rfl, none, denotes⟩ := ih read
    obtain rfl := List.eq_nil_of_length_eq_zero none
    have plain : c ≠ '"' ∧ c ≠ '\\' ∧ c ≠ '\r' :=
      ⟨by simpa using quote, by simpa using mark, by simpa using feed⟩
    exact ⟨[], c :: body, rfl, rfl, denotes.cons plain⟩

/-! ## Source without carriage returns -/

/-- A character is kept, unless it is a carriage return before a line feed. -/
theorem normalized_cons {c : Char} {cs : List Char} (h : c ≠ '\r' ∨ cs.head? ≠ some '\n') :
    normalized (c :: cs) = c :: normalized cs := by
  rw [normalized]
  rintro rest rfl rfl
  simp at h

theorem normalized_append {c : Char} (other : c ≠ '\n') (cs ds : List Char) :
    normalized (cs ++ c :: ds) = normalized cs ++ normalized (c :: ds) := by
  fun_induction normalized cs with
  | case1 => rfl
  | case2 cs ih => simpa [normalized] using ih
  | case3 d cs unlike ih =>
    rw [List.cons_append, normalized_cons, ih, List.cons_append]
    cases cs with
    | nil => exact .inr (by simpa using other)
    | cons e cs =>
      by_cases feed : e = '\n'
      · exact .inl fun return' => unlike cs return' (by rw [feed])
      · exact .inr (by simpa using feed)

theorem length_normalized_le (cs : List Char) : (normalized cs).length ≤ cs.length := by
  fun_induction normalized cs with
  | case1 => exact le_rfl
  | case2 cs ih =>
    simp only [List.length_cons]
    omega
  | case3 c cs unlike ih =>
    simp only [List.length_cons]
    omega

theorem idxOf_normalized_le (cs : List Char) :
    (normalized cs).idxOf '"' ≤ cs.idxOf '"' := by
  fun_induction normalized cs with
  | case1 => exact le_rfl
  | case2 cs ih =>
    rw [List.idxOf_cons_ne _ (by decide), List.idxOf_cons_ne _ (by decide),
      List.idxOf_cons_ne _ (by decide)]
    omega
  | case3 c cs unlike ih =>
    by_cases quote : c = '"'
    · simp [quote]
    · rw [List.idxOf_cons_ne _ quote, List.idxOf_cons_ne _ quote]
      omega

theorem normalized_plain {cs : List Char} (plain : Plain cs) (ds : List Char) :
    normalized (cs ++ ds) = cs ++ normalized ds := by
  induction cs with
  | nil => rfl
  | cons c cs ih =>
    obtain ⟨⟨_, _, feed⟩, later⟩ := List.forall_mem_cons.mp plain
    rw [List.cons_append, normalized_cons (.inl feed), ih later, List.cons_append]

/-! ## Texts between quotes -/

theorem readFrom_plain {cs : List Char} (plain : Plain cs) (rest : List Char) :
    readFrom 0 (cs ++ '"' :: rest) = some (cs, rest) := by
  induction cs with
  | nil => rfl
  | cons c cs ih =>
    obtain ⟨⟨quote, mark, feed⟩, later⟩ := List.forall_mem_cons.mp plain
    rw [List.cons_append, readFrom, if_neg (by simpa using quote), if_neg (by simpa using feed),
      if_neg (by simpa using mark), ih later]
    rfl

/-- The first quote in a text is the first in what comes before one. -/
theorem idxOf_append_quote (cs ds : List Char) : (cs ++ '"' :: ds).idxOf '"' = cs.idxOf '"' := by
  rw [List.idxOf_append]
  split
  · rfl
  · rename_i absent
    rw [List.idxOf_cons_self, List.idxOf_of_notMem absent, Nat.zero_add]

/-- A text between quotes that denotes itself has no marks. The quote that ends the literal cannot
come later than the first in the text, and a literal with an escape that ends there is too long. -/
theorem plain_of_readFrom {name tail rest : List Char}
    (h : readFrom 0 (normalized (name ++ '"' :: tail)) = some (name, rest)) : Plain name := by
  obtain ⟨skipped, body, whole, none, denotes⟩ := denotes_of_readFrom h
  obtain rfl := List.eq_nil_of_length_eq_zero none
  rw [normalized_append (by decide)] at whole
  have ends : body.idxOf '"' = (normalized name).idxOf '"' := by
    have first := congrArg (List.idxOf '"') whole
    have kept : normalized ('"' :: tail) = '"' :: normalized tail := rfl
    rw [List.nil_append, kept, idxOf_append_quote, idxOf_append_quote] at first
    exact first.symm
  have early := idxOf_normalized_le name
  have short := length_normalized_le name
  rcases denotes with ⟨rfl, plain⟩ | ⟨shorter, earlier⟩
  · exact plain
  · by_cases quote : '"' ∈ body
    · have before := earlier quote
      omega
    · have whole_length := List.idxOf_of_notMem quote
      have within := List.idxOf_le_length (a := '"') (l := normalized name)
      omega

/-- A text between quotes denotes itself just if it has none of the characters that mean something
else there. -/
theorem denoted?_eq_self_iff (text : String) (tail : List Char) :
    denoted? (text.toList ++ '"' :: tail) = some text ↔ Plain text.toList := by
  rw [denoted?]
  constructor
  · intro h
    obtain ⟨⟨value, rest⟩, read, same⟩ := Option.map_eq_some_iff.mp h
    obtain rfl : value = text.toList := by rw [← same, String.toList_ofList]
    exact plain_of_readFrom read
  · intro plain
    have kept : normalized ('"' :: tail) = '"' :: normalized tail := rfl
    rw [normalized_plain plain, kept, readFrom_plain plain, Option.map_some, String.ofList_toList]

end ApiReference.StringLiteral
