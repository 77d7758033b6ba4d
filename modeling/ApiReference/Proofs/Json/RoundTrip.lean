import Mathlib
import ApiReference.Json.Record
import ApiReference.Proofs.Text.Digits

/-!
What is written as JSON is read back. `value_written` reads a value off the start of a text,
whatever follows it that does not carry a number on; `parse_pretty` reads it off a whole text.
-/

namespace ApiReference.Json

/-! ## Numbers -/

/-- What may follow a value: nothing that carries a number on. -/
def Follows (rest : List Char) : Prop :=
  ∀ c ∈ rest.head?, c.isDigit = false ∧ c ≠ '.' ∧ c ≠ 'e' ∧ c ≠ 'E'

theorem follows_cons {c : Char} (rest : List Char)
    (h : c.isDigit = false ∧ c ≠ '.' ∧ c ≠ 'e' ∧ c ≠ 'E') : Follows (c :: rest) := by
  intro d hd
  cases hd
  exact h

private theorem noLeadingZero (n : Nat) :
    ((Nat.toDigits 10 n).head? == some '0' && (Nat.toDigits 10 n).length != 1) = false := by
  by_cases h : n = 0
  · subst h
    decide
  · have first := Text.head_toDigits n (by omega)
    simp [first]

private theorem spanDigits_append {digits rest : List Char} (h : ∀ c ∈ digits, c.isDigit = true)
    (follows : Follows rest) : spanDigits (digits ++ rest) = (digits, rest) := by
  unfold spanDigits
  rw [List.span_eq_takeWhile_dropWhile]
  have stop : rest.takeWhile Char.isDigit = [] ∧ rest.dropWhile Char.isDigit = rest := by
    cases rest with
    | nil => exact ⟨rfl, rfl⟩
    | cons c rest =>
      have hc := (follows c rfl).1
      simp [hc]
  rw [List.takeWhile_append_of_pos h, List.dropWhile_append_of_pos h, stop.1, stop.2,
    List.append_nil]

theorem readNumber_toDigits (n : Nat) {rest : List Char} (follows : Follows rest) :
    readNumber (Nat.toDigits 10 n ++ rest) = some (some n, rest) := by
  have digits : ∀ c ∈ Nat.toDigits 10 n, c.isDigit = true :=
    fun c hc => Nat.isDigit_of_mem_toDigits (by omega) (by omega) hc
  have unsigned : ((Nat.toDigits 10 n ++ rest).head? == some '-') = false := by
    rw [List.head?_append_of_ne_nil _ Nat.toDigits_ne_nil, beq_eq_false_iff_ne]
    intro minus
    have := digits '-' (List.mem_of_head? minus)
    cases this
  have fraction : skipFraction rest = some (false, rest) := by
    unfold skipFraction
    split
    · exact absurd rfl (follows '.' rfl).2.1
    · rfl
  have exponent : skipExponent rest = some (false, rest) := by
    cases rest with
    | nil => rfl
    | cons c rest =>
      have hc := follows c rfl
      simp [skipExponent, hc]
  have number : ofDigits (Nat.toDigits 10 n) = n := by
    have library := Nat.ofDigitChars_ten_toDigits (n := n)
    rwa [Nat.ofDigitChars_eq_foldl] at library
  have some : (Nat.toDigits 10 n).isEmpty = false := by
    simp [Nat.toDigits_ne_nil]
  unfold readNumber
  simp only [unsigned, spanDigits_append digits follows, some, noLeadingZero, fraction, exponent,
    number, Bool.false_eq_true, ↓reduceIte, Bool.or_self, bind, Option.bind, pure]

/-! ## Strings -/

private theorem hexValue?_hexDigit : ∀ n, n < 16 → hexValue? (hexDigit n) = some n := by
  decide

private theorem hexValue4?_control (n : Nat) (h : n < 256) :
    hexValue4? '0' '0' (hexDigit (n / 16)) (hexDigit (n % 16)) = some n := by
  have zero : hexValue? '0' = some 0 := by decide
  have high := hexValue?_hexDigit (n / 16) (by omega)
  have low := hexValue?_hexDigit (n % 16) (by omega)
  simp only [hexValue4?, zero, high, low, bind, Option.bind, pure]
  congr 1
  omega

private theorem stringUnits_short (e c : Char) (h : unescape? e = some c) (other : e ≠ 'u')
    (rest : List Char) : stringUnits ('\\' :: e :: rest) =
      (stringUnits rest).map fun (units, after) => (c.toNat :: units, after) := by
  have long : ∀ a b c d later, e = 'u' → rest = a :: b :: c :: d :: later → False :=
    fun _ _ _ _ _ equal _ => other equal
  rw [stringUnits.eq_4 _ _ long, h]
  cases stringUnits rest <;> rfl

private theorem stringUnits_plain (c : Char) (quote : c ≠ '"') (escape : c ≠ '\\')
    (high : ¬ c.toNat < 0x20) (rest : List Char) : stringUnits (c :: rest) =
      (stringUnits rest).map fun (units, after) => (c.toNat :: units, after) := by
  have long : ∀ a b d e later, c = '\\' → rest = 'u' :: a :: b :: d :: e :: later → False :=
    fun _ _ _ _ _ equal _ => escape equal
  have short : ∀ e later, c = '\\' → rest = e :: later → False :=
    fun _ _ equal _ => escape equal
  rw [stringUnits.eq_5 _ _ quote long short, if_neg (by simp [escape, high])]
  cases stringUnits rest <;> rfl

/-- An escaped character is read as its number. -/
theorem stringUnits_escapeChar (c : Char) (rest : List Char) :
    stringUnits (escapeChar c ++ rest) =
      (stringUnits rest).map fun (units, after) => (c.toNat :: units, after) := by
  unfold escapeChar
  split
  · rename_i h
    rw [beq_iff_eq.mp h]
    exact stringUnits_short '"' '"' rfl (by decide) rest
  split
  · rename_i h
    rw [beq_iff_eq.mp h]
    exact stringUnits_short '\\' '\\' rfl (by decide) rest
  split
  · rename_i h
    rw [beq_iff_eq.mp h]
    exact stringUnits_short 'b' '\x08' rfl (by decide) rest
  split
  · rename_i h
    rw [beq_iff_eq.mp h]
    exact stringUnits_short 't' '\t' rfl (by decide) rest
  split
  · rename_i h
    rw [beq_iff_eq.mp h]
    exact stringUnits_short 'n' '\n' rfl (by decide) rest
  split
  · rename_i h
    rw [beq_iff_eq.mp h]
    exact stringUnits_short 'f' '\x0C' rfl (by decide) rest
  split
  · rename_i h
    rw [beq_iff_eq.mp h]
    exact stringUnits_short 'r' '\r' rfl (by decide) rest
  split
  · rename_i control
    simp only [List.cons_append, List.nil_append]
    rw [stringUnits, hexValue4?_control c.toNat (by omega)]
    cases stringUnits rest <;> rfl
  · rename_i quote escape _ _ _ _ _ high
    simp only [beq_iff_eq] at quote escape
    exact stringUnits_plain c quote escape high rest

theorem stringUnits_escaped (cs rest : List Char) :
    stringUnits (cs.flatMap escapeChar ++ '"' :: rest) = some (cs.map Char.toNat, rest) := by
  induction cs with
  | nil => rw [List.flatMap_nil, List.nil_append, stringUnits, List.map_nil]
  | cons c cs ih =>
    rw [List.flatMap_cons, List.append_assoc, stringUnits_escapeChar, ih]
    rfl

private theorem not_surrogate (c : Char) :
    isHighSurrogate c.toNat = false ∧ isLowSurrogate c.toNat = false := by
  have valid : c.toNat < 0xD800 ∨ (0xDFFF < c.toNat ∧ c.toNat < 0x110000) := c.valid
  unfold isHighSurrogate isLowSurrogate
  simp only [Bool.and_eq_false_iff, decide_eq_false_iff_not]
  omega

theorem charactersOf_map (cs : List Char) : charactersOf (cs.map Char.toNat) = some cs := by
  induction cs with
  | nil => rfl
  | cons c cs ih =>
    obtain ⟨notHigh, notLow⟩ := not_surrogate c
    cases cs with
    | nil => simp [charactersOf, notHigh, notLow, Char.ofNat_toNat]
    | cons d rest =>
      rw [List.map_cons] at ih ⊢
      rw [List.map_cons, charactersOf, notHigh, notLow, ← List.map_cons, List.map_cons, ih]
      simp [Char.ofNat_toNat]

/-- What is written as a string is read as that. -/
theorem readString_quoted (s : String) (rest : List Char) :
    readString (s.toList.flatMap escapeChar ++ '"' :: rest) = some (some s, rest) := by
  rw [readString, stringUnits_escaped, Option.map_some]
  simp only [charactersOf_map, Option.map_some, String.ofList_toList]

/-! ## Values -/

mutual

/-- What is read where a value is written. -/
def parsed : Json → Parsed
  | .bool b => .bool b
  | .number n => .number (some n)
  | .text s => .text (some s)
  | .list items => .list (parsedItems items)
  | .object members => .object (parsedMembers members)

/-- What is read where items are written. -/
def parsedItems : List Json → List Parsed
  | [] => []
  | j :: rest => parsed j :: parsedItems rest

/-- What is read where members are written. -/
def parsedMembers : List (String × Json) → List (Option String × Parsed)
  | [] => []
  | (name, j) :: rest => (some name, parsed j) :: parsedMembers rest

end

theorem parsedItems_eq_map (items : List Json) : parsedItems items = items.map parsed := by
  induction items with
  | nil => rfl
  | cons j rest ih => rw [parsedItems, ih, List.map_cons]

theorem parsedMembers_append (ms ns : List (String × Json)) :
    parsedMembers (ms ++ ns) = parsedMembers ms ++ parsedMembers ns := by
  induction ms with
  | nil => rfl
  | cons m rest ih => rw [List.cons_append, parsedMembers, ih, parsedMembers, List.cons_append]

private theorem dropWhile_blanks {blanks : List Char} (h : ∀ c ∈ blanks, isSpace c = true)
    (cs : List Char) : (blanks ++ cs).dropWhile isSpace = cs.dropWhile isSpace :=
  List.dropWhile_append_of_pos h

private theorem lineBreak_blank (depth : Nat) : ∀ c ∈ lineBreak depth, isSpace c = true := by
  intro c hc
  rcases List.mem_cons.mp hc with rfl | hc
  · rfl
  · rw [List.eq_of_mem_replicate hc]
    rfl

/-- White space before a value, before items and before members makes no difference. -/
theorem value_blanks {blanks : List Char} (h : ∀ c ∈ blanks, isSpace c = true) (fuel : Nat)
    (cs : List Char) : value fuel (blanks ++ cs) = value fuel cs := by
  cases fuel with
  | zero => rfl
  | succ fuel => rw [value, value, dropWhile_blanks h]

private theorem value_space (fuel : Nat) (cs : List Char) :
    value fuel (' ' :: cs) = value fuel cs := by
  have one : ∀ c ∈ [' '], isSpace c = true := by
    intro c hc
    rw [List.mem_singleton.mp hc]
    rfl
  have same := value_blanks one fuel cs
  rwa [List.singleton_append] at same

theorem items_blanks {blanks : List Char} (h : ∀ c ∈ blanks, isSpace c = true) (fuel : Nat)
    (cs : List Char) : items fuel (blanks ++ cs) = items fuel cs := by
  cases fuel with
  | zero => rfl
  | succ fuel => rw [items, items, value_blanks h]

theorem members_blanks {blanks : List Char} (h : ∀ c ∈ blanks, isSpace c = true) (fuel : Nat)
    (cs : List Char) : members fuel (blanks ++ cs) = members fuel cs := by
  cases fuel with
  | zero => rfl
  | succ fuel => rw [members, members, dropWhile_blanks h]

private theorem digit_marks {d : Char} (h : d.isDigit = true) :
    d ≠ '[' ∧ d ≠ '\x7b' ∧ d ≠ '"' ∧ d ≠ 't' ∧ d ≠ 'f' ∧ d ≠ 'n' ∧ d ≠ ']' ∧
      isSpace d = false := by
  refine ⟨?_, ?_, ?_, ?_, ?_, ?_, ?_, ?_⟩
  case refine_8 =>
    have marks : d ≠ ' ' ∧ d ≠ '\n' ∧ d ≠ '\t' ∧ d ≠ '\r' := by
      refine ⟨?_, ?_, ?_, ?_⟩ <;> (rintro rfl; cases h)
    simp [isSpace, marks]
  all_goals (rintro rfl; cases h)

private theorem toDigits_cons (n : Nat) :
    ∃ d ds, Nat.toDigits 10 n = d :: ds ∧ d.isDigit = true := by
  cases h : Nat.toDigits 10 n with
  | nil => exact absurd h Nat.toDigits_ne_nil
  | cons d ds =>
    exact ⟨d, ds, rfl, Nat.isDigit_of_mem_toDigits (by omega) (by omega) (h ▸ List.mem_cons_self)⟩

/-- A value written starts with a character that is neither white space nor a closing bracket. -/
theorem written_head (depth : Nat) (j : Json) :
    ∃ c cs, written depth j = c :: cs ∧ isSpace c = false ∧ c ≠ ']' := by
  cases j with
  | bool b => cases b <;> exact ⟨_, _, rfl, by decide, by decide⟩
  | number n =>
    obtain ⟨d, ds, digits, digit⟩ := toDigits_cons n
    exact ⟨d, ds, by rw [written, digits], (digit_marks digit).2.2.2.2.2.2.2,
      (digit_marks digit).2.2.2.2.2.2.1⟩
  | text s => exact ⟨'"', _, by rw [written, quoted], by decide, by decide⟩
  | list items => exact ⟨'[', _, by rw [written], by decide, by decide⟩
  | object members => exact ⟨'\x7b', _, by rw [written], by decide, by decide⟩

private theorem value_number (n fuel : Nat) {rest : List Char} (follows : Follows rest) :
    value (fuel + 1) (Nat.toDigits 10 n ++ rest) = (.number (some n), some rest) := by
  obtain ⟨d, ds, digits, digit⟩ := toDigits_cons n
  obtain ⟨h₁, h₂, h₃, h₄, h₅, h₆, -, blank⟩ := digit_marks digit
  have read := readNumber_toDigits n follows
  rw [digits, List.cons_append] at read ⊢
  rw [value, List.dropWhile_cons_of_neg (by simp [blank])]
  split
  case h_7 => simp only [read]
  all_goals simp_all

private theorem value_text (s : String) (fuel : Nat) (rest : List Char) :
    value (fuel + 1) (quoted s ++ rest) = (.text (some s), some rest) := by
  have read := readString_quoted s rest
  rw [quoted, List.cons_append, List.append_assoc, List.singleton_append, value,
    List.dropWhile_cons_of_neg (by decide)]
  simp only [read]

private theorem value_list {fuel : Nat} {cs : List Char} {read : List Parsed}
    {after : Option (List Char)} (h : items fuel cs = (read, after))
    (head : ∃ c t, cs.dropWhile isSpace = c :: t ∧ c ≠ ']') :
    value (fuel + 1) ('[' :: cs) = (.list read, after) := by
  obtain ⟨c, t, first, open'⟩ := head
  have blank : ∀ d ∈ cs.takeWhile isSpace, isSpace d = true :=
    fun d hd => List.mem_takeWhile_imp hd
  have same := items_blanks blank fuel (cs.dropWhile isSpace)
  rw [List.takeWhile_append_dropWhile, h] at same
  rw [value, List.dropWhile_cons_of_neg (by decide)]
  simp only [first] at same ⊢
  split
  · rename_i equal
    exact absurd (List.cons.inj equal).1 open'
  · rename_i equal
    rw [← same]

private theorem value_object {fuel : Nat} {cs : List Char}
    {read : List (Option String × Parsed)} {after : Option (List Char)}
    (h : members fuel cs = (read, after))
    (head : ∃ t, cs.dropWhile isSpace = '"' :: t) :
    value (fuel + 1) ('\x7b' :: cs) = (.object read, after) := by
  obtain ⟨t, first⟩ := head
  have blank : ∀ d ∈ cs.takeWhile isSpace, isSpace d = true :=
    fun d hd => List.mem_takeWhile_imp hd
  have same := members_blanks blank fuel (cs.dropWhile isSpace)
  rw [List.takeWhile_append_dropWhile, h] at same
  rw [value, List.dropWhile_cons_of_neg (by decide)]
  simp only [first] at same ⊢
  split
  · rename_i equal
    cases (List.cons.inj equal).1
  · rw [← same]

private theorem items_last {fuel : Nat} {cs rest : List Char} {p : Parsed} (depth : Nat)
    (h : value fuel cs = (p, some (lineBreak depth ++ ']' :: rest))) :
    items (fuel + 1) cs = ([p], some rest) := by
  rw [items, h]
  simp only [dropWhile_blanks (lineBreak_blank depth)]
  rw [List.dropWhile_cons_of_neg (by decide)]
  rfl

private theorem items_more {fuel : Nat} {cs more : List Char} {p : Parsed} {later : List Parsed}
    {after : Option (List Char)} (h : value fuel cs = (p, some (',' :: more)))
    (k : items fuel more = (later, after)) : items (fuel + 1) cs = (p :: later, after) := by
  rw [items, h]
  simp only
  rw [List.dropWhile_cons_of_neg (by decide)]
  simp only [k]

private theorem members_last {fuel : Nat} {name : String} {cs rest : List Char} {p : Parsed}
    (depth : Nat) (h : value fuel cs = (p, some (lineBreak depth ++ '\x7d' :: rest))) :
    members (fuel + 1) (quoted name ++ ':' :: ' ' :: cs) = ([(some name, p)], some rest) := by
  have read := readString_quoted name (':' :: ' ' :: cs)
  have space := value_space fuel cs
  rw [quoted, List.cons_append, List.append_assoc, List.singleton_append, members,
    List.dropWhile_cons_of_neg (by decide)]
  simp only [read]
  rw [List.dropWhile_cons_of_neg (by decide)]
  simp only [space, h, dropWhile_blanks (lineBreak_blank depth)]
  rw [List.dropWhile_cons_of_neg (by decide)]
  rfl

private theorem members_more (name : String) {fuel : Nat} {cs more : List Char} {p : Parsed}
    {later : List (Option String × Parsed)} {after : Option (List Char)}
    (h : value fuel cs = (p, some (',' :: more))) (k : members fuel more = (later, after)) :
    members (fuel + 1) (quoted name ++ ':' :: ' ' :: cs) = ((some name, p) :: later, after) := by
  have read := readString_quoted name (':' :: ' ' :: cs)
  have space := value_space fuel cs
  rw [quoted, List.cons_append, List.append_assoc, List.singleton_append, members,
    List.dropWhile_cons_of_neg (by decide)]
  simp only [read]
  rw [List.dropWhile_cons_of_neg (by decide)]
  simp only [space, h]
  rw [List.dropWhile_cons_of_neg (by decide)]
  simp only [k]

private theorem written_pos (depth : Nat) (j : Json) : 0 < (written depth j).length := by
  obtain ⟨c, cs, h, -⟩ := written_head depth j
  simp [h]

private theorem follows_lineBreak (depth : Nat) (rest : List Char) :
    Follows (lineBreak depth ++ rest) :=
  follows_cons _ (by decide)

mutual

/-- A value is read off the start of a text that it was written to. -/
theorem value_written : ∀ (j : Json) (depth fuel : Nat) (rest : List Char),
    (written depth j).length ≤ fuel → Follows rest →
      value fuel (written depth j ++ rest) = (parsed j, some rest)
  | j, depth, 0, rest, enough, _ => absurd enough (Nat.not_le.mpr (written_pos depth j))
  | .bool true, depth, fuel + 1, rest, _, _ => by
    simp [written, parsed, value, isSpace]
  | .bool false, depth, fuel + 1, rest, _, _ => by
    simp [written, parsed, value, isSpace]
  | .number n, depth, fuel + 1, rest, _, follows => by
    rw [written, parsed]
    exact value_number n fuel follows
  | .text s, depth, fuel + 1, rest, _, _ => by
    rw [written, parsed]
    exact value_text s fuel rest
  | .list [], depth, fuel + 1, rest, _, _ => by
    simp [written, writtenItems, parsed, parsedItems, value, isSpace]
  | .list (j :: later), depth, fuel + 1, rest, enough, _ => by
    simp only [written, List.isEmpty_cons, Bool.false_eq_true, ↓reduceIte, List.length_cons,
      List.length_append] at enough
    have inside := items_written j later depth (depth + 1) fuel rest (by omega)
    obtain ⟨c, cs, first, blank, other⟩ := written_head (depth + 1) j
    have head : ∃ c t, (writtenItems (depth + 1) (j :: later) ++
        (lineBreak depth ++ ']' :: rest)).dropWhile isSpace = c :: t ∧ c ≠ ']' := by
      cases later <;>
        simp only [writtenItems, List.append_assoc, dropWhile_blanks (lineBreak_blank _), first,
          List.cons_append] <;>
        exact ⟨c, _, List.dropWhile_cons_of_neg (by simp [blank]), other⟩
    have whole := value_list inside head
    simpa [written, parsed] using whole
  | .object [], depth, fuel + 1, rest, _, _ => by
    simp [written, writtenMembers, parsed, parsedMembers, value, isSpace]
  | .object ((name, j) :: later), depth, fuel + 1, rest, enough, _ => by
    simp only [written, List.isEmpty_cons, Bool.false_eq_true, ↓reduceIte, List.length_cons,
      List.length_append] at enough
    have inside := members_written name j later depth (depth + 1) fuel rest (by omega)
    have head : ∃ t, (writtenMembers (depth + 1) ((name, j) :: later) ++
        (lineBreak depth ++ '\x7d' :: rest)).dropWhile isSpace = '"' :: t := by
      cases later <;>
        simp only [writtenMembers, List.append_assoc, dropWhile_blanks (lineBreak_blank _), quoted,
          List.cons_append] <;>
        exact ⟨_, List.dropWhile_cons_of_neg (by decide)⟩
    have whole := value_object inside head
    simpa [written, parsed] using whole
termination_by structural _ _ fuel => fuel

/-- Items are read up to the bracket after them. -/
theorem items_written : ∀ (j : Json) (later : List Json) (outer depth fuel : Nat)
    (rest : List Char), (writtenItems depth (j :: later)).length ≤ fuel →
      items fuel (writtenItems depth (j :: later) ++ (lineBreak outer ++ ']' :: rest)) =
        (parsedItems (j :: later), some rest)
  | j, later, outer, depth, 0, rest, enough => by
    cases later <;> simp [writtenItems, lineBreak] at enough
  | j, [], outer, depth, fuel + 1, rest, enough => by
    simp only [writtenItems, lineBreak, List.length_append, List.length_cons] at enough
    have first := value_written j depth fuel (lineBreak outer ++ ']' :: rest) (by omega)
      (follows_lineBreak _ _)
    rw [writtenItems, List.append_assoc, items_blanks (lineBreak_blank depth)]
    exact items_last outer first
  | j, k :: later, outer, depth, fuel + 1, rest, enough => by
    simp only [writtenItems, lineBreak, List.length_append, List.length_cons] at enough
    have first := value_written j depth fuel
      (',' :: (writtenItems depth (k :: later) ++ (lineBreak outer ++ ']' :: rest))) (by omega)
      (follows_cons _ (by decide))
    have more := items_written k later outer depth fuel rest (by omega)
    rw [writtenItems, List.append_assoc, List.append_assoc, items_blanks (lineBreak_blank depth)]
    exact items_more first more
termination_by structural _ _ _ _ fuel => fuel

/-- Members are read up to the brace after them. -/
theorem members_written : ∀ (name : String) (j : Json) (later : List (String × Json))
    (outer depth fuel : Nat) (rest : List Char),
    (writtenMembers depth ((name, j) :: later)).length ≤ fuel →
      members fuel (writtenMembers depth ((name, j) :: later) ++
        (lineBreak outer ++ '\x7d' :: rest)) = (parsedMembers ((name, j) :: later), some rest)
  | name, j, later, outer, depth, 0, rest, enough => by
    cases later <;> simp [writtenMembers, lineBreak] at enough
  | name, j, [], outer, depth, fuel + 1, rest, enough => by
    simp only [writtenMembers, lineBreak, List.length_append, List.length_cons] at enough
    have first := value_written j depth fuel (lineBreak outer ++ '\x7d' :: rest) (by omega)
      (follows_lineBreak _ _)
    rw [writtenMembers, List.append_assoc, List.append_assoc,
      members_blanks (lineBreak_blank depth)]
    exact members_last outer first
  | name, j, (m, k) :: later, outer, depth, fuel + 1, rest, enough => by
    simp only [writtenMembers, lineBreak, List.length_append, List.length_cons] at enough
    have first := value_written j depth fuel
      (',' :: (writtenMembers depth ((m, k) :: later) ++ (lineBreak outer ++ '\x7d' :: rest)))
      (by omega) (follows_cons _ (by decide))
    have more := members_written m k later outer depth fuel rest (by omega)
    have last := members_more name first more
    simp only [writtenMembers, List.append_assoc, List.cons_append]
    rw [members_blanks (lineBreak_blank depth)]
    exact last
termination_by structural _ _ _ _ _ fuel => fuel

end

/-! ## Whole texts -/

private theorem follows_blanks {cs : List Char} (h : ∀ c ∈ cs, isSpace c = true) : Follows cs := by
  intro c hc
  have blank := h c (List.mem_of_head? hc)
  simp only [isSpace, Bool.or_eq_true, beq_iff_eq] at blank
  rcases blank with ((rfl | rfl) | rfl) | rfl <;> decide

/-- A value is read back from the text it was written to, white space after it included. -/
theorem parse_pretty (j : Json) {tail : String} (h : ∀ c ∈ tail.toList, isSpace c = true) :
    parse (j.pretty ++ tail) = (parsed j, true) := by
  have text : (j.pretty ++ tail).toList = written 0 j ++ tail.toList := by
    rw [String.toList_append, pretty, String.toList_ofList]
  have enough : (written 0 j).length ≤ 2 * (j.pretty ++ tail).toList.length + 2 := by
    rw [text, List.length_append]
    omega
  have read := value_written j 0 _ tail.toList enough (follows_blanks h)
  unfold parse
  rw [text] at read ⊢
  simp only [read, Option.map_some, Option.getD_some, Prod.mk.injEq, true_and, List.all_eq_true]
  exact h

variable {ε α : Type}

theorem read_pretty (j : Json) {tail : String} (h : ∀ c ∈ tail.toList, isSpace c = true)
    (reader : Parsed → Except (Fault ε) α) :
    read (j.pretty ++ tail) reader = reader (parsed j) := by
  unfold read
  rw [parse_pretty j h]
  simp only
  cases reader (parsed j) <;> rfl

/-! ## Lists -/

/-- A list of things is read back if each of them is. -/
theorem asList_parsed {β : Type} {reader : Parsed → Except (Fault ε) β} {toJson : β → Json}
    {things : List β} (h : ∀ b ∈ things, reader (parsed (toJson b)) = .ok b) :
    Parsed.asList reader (parsed (.list (things.map toJson))) = .ok things := by
  rw [parsed, Parsed.asList, parsedItems_eq_map]
  induction things with
  | nil => rfl
  | cons b rest ih =>
    have first := h b List.mem_cons_self
    have later := ih fun c hc => h c (List.mem_cons_of_mem _ hc)
    rw [List.map_cons, List.map_cons, List.mapM_cons, first, later]
    rfl

end ApiReference.Json
