import ApiReference.Proofs.Text.Split
import ApiReference.Proofs.Text.Trim
import ApiReference.WireType.Notation

/-!
Types read back from their notation. `Readable` holds of the types that their notation gives back,
and `Orderly.readable` shows it of those that are nested as a reader expects. What a union is cut
at are the bars outside all brackets, so the texts of its members must be cut nowhere (`Solid`) and
those inside brackets only there (`Enclosed`).
-/

namespace ApiReference.WireType

/-! ## Where a text is cut -/

/-- The number of brackets open after a text, where `depth` are open before it; none if a bar in
the text stands outside all brackets. -/
def depthAfter? : Nat → List Char → Option Nat
  | depth, [] => some depth
  | depth, c :: cs =>
    if c == '|' && depth == 0 then none else depthAfter? (bracketDepth depth c) cs

theorem depthAfter?_append (depth : Nat) (cs ds : List Char) :
    depthAfter? depth (cs ++ ds)
      = (depthAfter? depth cs).bind fun after => depthAfter? after ds := by
  induction cs generalizing depth with
  | nil => rfl
  | cons c cs ih =>
    rw [List.cons_append, depthAfter?, depthAfter?]
    split
    · rfl
    · exact ih (bracketDepth depth c)

/-- Puts a text before the first of several parts. -/
def glue (cs : List Char) : List (List Char) → List (List Char)
  | [] => [cs]
  | part :: parts => (cs ++ part) :: parts

theorem glue_append (cs ds : List Char) (parts : List (List Char)) :
    glue (cs ++ ds) parts = glue cs (glue ds parts) := by
  cases parts <;> simp [glue]

private theorem splitBars_cons (depth : Nat) (c : Char) (cs : List Char)
    (h : (c == '|' && depth == 0) = false) :
    splitBars depth (c :: cs) = glue [c] (splitBars (bracketDepth depth c) cs) := by
  rw [splitBars, if_neg (by simp [h])]
  split
  · rename_i none
    exact absurd none (splitBars_ne_nil _ _)
  · rename_i parts
    rw [parts]
    rfl

/-- A text that is cut at no place goes before the first part of what follows. -/
theorem splitBars_append {depth after : Nat} {cs : List Char}
    (h : depthAfter? depth cs = some after) (rest : List Char) :
    splitBars depth (cs ++ rest) = glue cs (splitBars after rest) := by
  induction cs generalizing depth with
  | nil =>
    cases h
    obtain ⟨part, parts, shape⟩ := List.exists_cons_of_ne_nil (splitBars_ne_nil _ rest)
    rw [List.nil_append, shape]
    rfl
  | cons c cs ih =>
    rw [depthAfter?] at h
    split at h
    · cases h
    · rename_i noCut
      rw [List.cons_append, splitBars_cons _ _ _ (by simpa using noCut), ih h, ← glue_append,
        List.singleton_append]

/-- Parts that are cut apart by bars between them and at no other place, where `depth` brackets are
open before the first. -/
def Separate : Nat → List (List Char) → Prop
  | _, [] => False
  | depth, [part] => (depthAfter? depth part).isSome = true
  | depth, part :: next :: rest => depthAfter? depth part = some 0 ∧ Separate 0 (next :: rest)

/-- What a text is cut into are parts with nothing to cut in them. -/
theorem separate_splitBars (depth : Nat) (cs : List Char) : Separate depth (splitBars depth cs) := by
  induction cs generalizing depth with
  | nil => rfl
  | cons c cs ih =>
    cases cut : c == '|' && depth == 0 with
    | true =>
      have top : depth = 0 := by simpa using (Bool.and_eq_true_iff.mp cut).2
      have later := ih 0
      obtain ⟨part, parts, shape⟩ := List.exists_cons_of_ne_nil (splitBars_ne_nil 0 cs)
      rw [splitBars, if_pos cut, shape, top]
      rw [shape] at later
      exact ⟨rfl, later⟩
    | false =>
      have later := ih (bracketDepth depth c)
      obtain ⟨part, parts, shape⟩ :=
        List.exists_cons_of_ne_nil (splitBars_ne_nil (bracketDepth depth c) cs)
      have goesOn : depthAfter? depth (c :: part) = depthAfter? (bracketDepth depth c) part := by
        rw [depthAfter?, if_neg (by simp [cut])]
      rw [splitBars_cons _ _ _ cut, shape]
      rw [shape] at later
      cases parts with
      | nil => exact (congrArg Option.isSome goesOn).trans later
      | cons next rest => exact ⟨goesOn.trans later.1, later.2⟩

/-- The parts with bars between them are the text again. -/
theorem intercalate_splitBars (depth : Nat) (cs : List Char) :
    ['|'].intercalate (splitBars depth cs) = cs := by
  induction cs generalizing depth with
  | nil => rfl
  | cons c cs ih =>
    cases cut : c == '|' && depth == 0 with
    | true =>
      have bar : c = '|' := by simpa using (Bool.and_eq_true_iff.mp cut).1
      rw [splitBars, if_pos cut, List.intercalate_cons_of_ne_nil (splitBars_ne_nil 0 cs), ih, bar]
      rfl
    | false =>
      have later := ih (bracketDepth depth c)
      obtain ⟨part, parts, shape⟩ :=
        List.exists_cons_of_ne_nil (splitBars_ne_nil (bracketDepth depth c) cs)
      rw [splitBars_cons _ _ _ cut, shape]
      rw [shape] at later
      cases parts with
      | nil =>
        rw [List.intercalate_singleton] at later
        rw [glue, List.intercalate_singleton, later, List.singleton_append]
      | cons next rest =>
        rw [List.intercalate_cons_cons] at later
        rw [glue, List.intercalate_cons_cons, List.append_assoc, List.append_assoc,
          List.singleton_append, ← List.append_assoc, later]

/-- Separate parts with bars between them are cut into those parts. -/
theorem Separate.splitBars_intercalate {depth : Nat} {parts : List (List Char)}
    (h : Separate depth parts) : splitBars depth (['|'].intercalate parts) = parts := by
  induction parts generalizing depth with
  | nil => exact h.elim
  | cons part parts ih =>
    cases parts with
    | nil =>
      obtain ⟨after, passes⟩ := Option.isSome_iff_exists.mp h
      have whole := splitBars_append passes []
      rw [List.append_nil] at whole
      rw [List.intercalate_singleton, whole]
      simp [splitBars, glue]
    | cons next rest =>
      rw [List.intercalate_cons_cons, List.append_assoc, splitBars_append h.1,
        List.singleton_append, splitBars, if_pos (by decide), ih h.2]
      simp [glue]

/-! ## Marks -/

/-- The characters that decide where a text is cut. -/
def isMark (c : Char) : Bool := c == '[' || c == '(' || c == ']' || c == ')' || c == '|'

private theorem bracketDepth_other {c : Char} (h : isMark c = false) (depth : Nat) :
    bracketDepth depth c = depth := by
  simp only [isMark, Bool.or_eq_false_iff] at h
  obtain ⟨⟨⟨⟨h₁, h₂⟩, h₃⟩, h₄⟩, -⟩ := h
  simp [bracketDepth, h₁, h₂, h₃, h₄]

theorem depthAfter?_marks (depth : Nat) (cs : List Char) :
    depthAfter? depth (cs.filter isMark) = depthAfter? depth cs := by
  induction cs generalizing depth with
  | nil => rfl
  | cons c cs ih =>
    cases mark : isMark c with
    | true =>
      rw [List.filter_cons_of_pos mark, depthAfter?, depthAfter?]
      split
      · rfl
      · exact ih (bracketDepth depth c)
    | false =>
      have noBar : (c == '|') = false := by
        simp only [isMark, Bool.or_eq_false_iff] at mark
        exact mark.2
      rw [List.filter_cons_of_neg (by simp [mark]), depthAfter?, if_neg (by simp [noBar]),
        bracketDepth_other mark, ih]

/-- Whether parts are separate depends on their marks only. -/
theorem Separate.congr {depth : Nat} {parts others : List (List Char)} (h : Separate depth parts)
    (same : others.map (List.filter isMark) = parts.map (List.filter isMark)) :
    Separate depth others := by
  induction parts generalizing depth others with
  | nil => exact h.elim
  | cons part parts ih =>
    cases others with
    | nil => cases same
    | cons other others =>
      rw [List.map_cons, List.map_cons, List.cons.injEq] at same
      have first : depthAfter? depth other = depthAfter? depth part := by
        rw [← depthAfter?_marks, same.1, depthAfter?_marks]
      cases parts with
      | nil =>
        rw [List.map_nil, List.map_eq_nil_iff] at same
        rw [same.2]
        exact (congrArg Option.isSome first).trans h
      | cons next rest =>
        have later := ih h.2 same.2
        cases others with
        | nil => exact later.elim
        | cons other' others => exact ⟨first.trans h.1, later⟩

/-! ## Texts that are cut nowhere -/

/-- A text that is cut at no place, wherever it stands, and leaves as many brackets open as were
open before. -/
def Solid (cs : List Char) : Prop := ∀ depth, depthAfter? depth cs = some depth

/-- A text that is cut at no place inside brackets. -/
def Enclosed (cs : List Char) : Prop := ∀ depth, depthAfter? (depth + 1) cs = some (depth + 1)

theorem Solid.enclosed {cs : List Char} (h : Solid cs) : Enclosed cs :=
  fun depth => h (depth + 1)

theorem Solid.append {cs ds : List Char} (h : Solid cs) (k : Solid ds) : Solid (cs ++ ds) := by
  intro depth
  rw [depthAfter?_append, h depth]
  exact k depth

theorem Enclosed.append {cs ds : List Char} (h : Enclosed cs) (k : Enclosed ds) :
    Enclosed (cs ++ ds) := by
  intro depth
  rw [depthAfter?_append, h depth]
  exact k depth

theorem solid_of_forall {cs : List Char} (h : ∀ c ∈ cs, isMark c = false) : Solid cs := by
  intro depth
  rw [← depthAfter?_marks, List.filter_eq_nil_iff.mpr fun c hc => by simp [h c hc]]
  rfl

theorem enclosed_bar : Enclosed ['|'] := fun _ => rfl

/-- Brackets around a text keep it from being cut. -/
theorem Enclosed.solid {cs : List Char} (h : Enclosed cs) (opening closing : Char)
    (opens : opening = '[' ∨ opening = '(') (closes : closing = ']' ∨ closing = ')') :
    Solid (opening :: (cs ++ [closing])) := by
  intro depth
  have up : depthAfter? depth [opening] = some (depth + 1) := by
    rcases opens with rfl | rfl <;> rfl
  have down : depthAfter? (depth + 1) [closing] = some depth := by
    rcases closes with rfl | rfl <;> rfl
  rw [← List.singleton_append, depthAfter?_append, up]
  show depthAfter? (depth + 1) (cs ++ [closing]) = some depth
  rw [depthAfter?_append, h depth]
  exact down

/-- A solid text on its own is one part. -/
theorem Solid.alone {cs : List Char} (h : Solid cs) (depth : Nat) : splitBars depth cs = [cs] := by
  have single : Separate depth [cs] := by
    rw [Separate, h depth]
    rfl
  have whole := single.splitBars_intercalate
  rwa [List.intercalate_singleton] at whole

/-- Solid texts are cut only between them. -/
theorem separate_of_solid {parts : List (List Char)} (nonempty : parts ≠ [])
    (h : ∀ part ∈ parts, Solid part) : Separate 0 parts := by
  induction parts with
  | nil => exact nonempty rfl
  | cons part parts ih =>
    have first := h part List.mem_cons_self 0
    cases parts with
    | nil =>
      rw [Separate, first]
      rfl
    | cons next rest =>
      exact ⟨first, ih (List.cons_ne_nil _ _) fun p hp => h p (List.mem_cons_of_mem _ hp)⟩

/-! ## Readable types -/

/-- A type that is read back from its notation. -/
def Readable (t : WireType) : Prop := ofNotation (notationOf t) = .ok t

/-- Whether a type is a union. -/
def isUnion : WireType → Bool
  | .union _ => true
  | _ => false

/-- The types whose unions have two alternatives at least, none of them a union itself, and whose
names satisfy `named` if they are those of data types and `foreign` if they are not. -/
inductive Orderly (named foreign : String → Prop) : WireType → Prop where
  | scalar (kind : Scalar) : Orderly named foreign (.scalar kind)
  | array {element : WireType} : Orderly named foreign element →
    Orderly named foreign (.array element)
  | union {members : List WireType} : 2 ≤ members.length →
    (∀ m ∈ members, Orderly named foreign m) → (∀ m ∈ members, m.isUnion = false) →
    Orderly named foreign (.union members)
  | named {name : String} : named name → Orderly named foreign (.named name)
  | foreign {name : String} : foreign name → Orderly named foreign (.foreign name)

/-- A text that is read as a name. -/
def NameLike (name : String) : Prop := isName name.toList = true

/-- A name that can stand between brackets. -/
def EnclosedName (name : String) : Prop := Enclosed name.toList

theorem isMark_of_isAlphanumeric {c : Char} (h : Text.isAlphanumeric c = true) :
    isMark c = false := by
  have none : ∀ n ∈ [0x28, 0x29, 0x5B, 0x5D, 0x7C],
      Text.isAlphanumeric (Char.ofNat n) = false := by decide +kernel
  by_contra mark
  simp only [isMark, Bool.not_eq_false, Bool.or_eq_true, beq_iff_eq] at mark
  have listed : c.toNat ∈ [0x28, 0x29, 0x5B, 0x5D, 0x7C] := by
    rcases mark with (((rfl | rfl) | rfl) | rfl) | rfl <;> simp
  have clash := none c.toNat listed
  rw [Char.ofNat_toNat, h] at clash
  cases clash

theorem alphanumeric_of_isName {cs : List Char} (h : isName cs = true) :
    ∃ c rest, cs = c :: rest ∧ c.isUpper = true ∧ ∀ d ∈ cs, Text.isAlphanumeric d = true := by
  cases cs with
  | nil => cases h
  | cons c rest =>
    unfold isName at h
    obtain ⟨upper, all⟩ := Bool.and_eq_true_iff.mp h
    exact ⟨c, rest, rfl, upper, List.all_eq_true.mp all⟩

/-- A name is cut nowhere. -/
theorem solid_of_isName {cs : List Char} (h : isName cs = true) : Solid cs := by
  obtain ⟨c, rest, -, -, letters⟩ := alphanumeric_of_isName h
  exact solid_of_forall fun d hd => isMark_of_isAlphanumeric (letters d hd)

private theorem tight_of_isName {cs : List Char} (h : isName cs = true) : Text.Tight cs := by
  obtain ⟨c, rest, cons, -, letters⟩ := alphanumeric_of_isName h
  refine Text.tight_of_forall (by simp [cons]) fun d hd => ?_
  exact Text.isBlank_of_isAlphanumeric (letters d hd)

private theorem word_letters (kind : Scalar) :
    kind.word.toList ≠ [] ∧ (∀ c ∈ kind.word.toList, isMark c = false) ∧
      ∀ c ∈ kind.word.toList, Text.isBlank c = false := by
  have nonempty : kind.word.toList ≠ [] := by cases kind <;> simp [Scalar.word]
  have letters : kind.word.toList.all (fun c => !isMark c && !Text.isBlank c) = true := by
    cases kind <;> decide
  rw [List.all_eq_true] at letters
  refine ⟨nonempty, fun c hc => ?_, fun c hc => ?_⟩
  · have letter := letters c hc
    simp only [Bool.and_eq_true, Bool.not_eq_true'] at letter
    exact letter.1
  · have letter := letters c hc
    simp only [Bool.and_eq_true, Bool.not_eq_true'] at letter
    exact letter.2

private theorem solid_opaque : Solid "opaque".toList := by
  refine solid_of_forall fun c hc => ?_
  have letters : "opaque".toList.all (fun c => !isMark c) = true := by decide
  simpa using List.all_eq_true.mp letters c hc

private theorem space_blank : ∀ c ∈ [' '], Text.isBlank c = true := by
  intro c hc
  rw [List.mem_singleton.mp hc]
  rfl

private theorem solid_space : Solid [' '] := by
  refine solid_of_forall fun c hc => ?_
  rw [List.mem_singleton.mp hc]
  rfl

/-! ## The notation, constructor by constructor -/

theorem written_scalar (kind : Scalar) : written (.scalar kind) = kind.word.toList := rfl

theorem written_array (element : WireType) :
    written (.array element) = '[' :: (written element ++ [']']) := rfl

theorem written_union (members : List WireType) :
    written (.union members) = writtenMembers members := rfl

theorem written_named (name : String) : written (.named name) = name.toList := rfl

theorem written_foreign (name : String) :
    written (.foreign name) = "opaque".toList ++ ('(' :: (name.toList ++ [')'])) := rfl

theorem writtenMembers_singleton (m : WireType) : writtenMembers [m] = written m := rfl

theorem writtenMembers_cons_cons (m n : WireType) (rest : List WireType) :
    writtenMembers (m :: n :: rest)
      = written m ++ [' ', '|', ' '] ++ writtenMembers (n :: rest) := rfl

/-! ## Alternatives -/

theorem tight_writtenMembers {members : List WireType} (nonempty : members ≠ [])
    (h : ∀ m ∈ members, Text.Tight (written m)) : Text.Tight (writtenMembers members) := by
  induction members with
  | nil => exact absurd rfl nonempty
  | cons m rest ih =>
    have first := h m List.mem_cons_self
    cases rest with
    | nil => exact first
    | cons n rest =>
      have later := ih (List.cons_ne_nil n rest) fun k hk => h k (List.mem_cons_of_mem _ hk)
      rw [writtenMembers_cons_cons]
      exact first.append _ later

private theorem enclosed_writtenMembers {members : List WireType} (nonempty : members ≠ [])
    (h : ∀ m ∈ members, Enclosed (written m)) : Enclosed (writtenMembers members) := by
  induction members with
  | nil => exact absurd rfl nonempty
  | cons m rest ih =>
    have first := h m List.mem_cons_self
    cases rest with
    | nil => exact first
    | cons n rest =>
      have later := ih (List.cons_ne_nil n rest) fun k hk => h k (List.mem_cons_of_mem _ hk)
      have bar : Enclosed [' ', '|', ' '] :=
        (solid_space.enclosed.append enclosed_bar).append solid_space.enclosed
      rw [writtenMembers_cons_cons]
      exact (first.append bar).append later

/-- Parts with a space on either side of each bar between them, the first after `pre`. -/
def spaced (pre : List Char) : List (List Char) → List (List Char)
  | [] => []
  | [part] => [pre ++ part]
  | part :: next :: rest => (pre ++ part ++ [' ']) :: spaced [' '] (next :: rest)

theorem writtenMembers_eq (pre : List Char) {members : List WireType} (nonempty : members ≠ []) :
    pre ++ writtenMembers members = ['|'].intercalate (spaced pre (members.map written)) := by
  induction members generalizing pre with
  | nil => exact absurd rfl nonempty
  | cons m rest ih =>
    cases rest with
    | nil => rw [writtenMembers_singleton, List.map_singleton, spaced, List.intercalate_singleton]
    | cons n rest =>
      have later := ih [' '] (List.cons_ne_nil n rest)
      have more : spaced [' '] ((n :: rest).map written) ≠ [] := by
        cases rest <;> simp [spaced]
      rw [writtenMembers_cons_cons, List.map_cons, List.map_cons, spaced, ← List.map_cons,
        List.intercalate_cons_of_ne_nil more, ← later]
      simp

theorem trim_spaced {pre : List Char} (blank : ∀ c ∈ pre, Text.isBlank c = true)
    {parts : List (List Char)} (tight : ∀ part ∈ parts, Text.Tight part) :
    (spaced pre parts).map Text.trim = parts := by
  induction parts generalizing pre with
  | nil => rfl
  | cons part rest ih =>
    have first := tight part List.mem_cons_self
    cases rest with
    | nil =>
      have none : ∀ c ∈ ([] : List Char), Text.isBlank c = true := by simp
      have trimmed := Text.trim_tight blank first none
      rw [List.append_nil] at trimmed
      rw [spaced, List.map_singleton, trimmed]
    | cons next rest =>
      rw [spaced, List.map_cons, Text.trim_tight blank first space_blank,
        ih space_blank fun p hp => tight p (List.mem_cons_of_mem _ hp)]

theorem marks_spaced {pre : List Char} (plain : pre.filter isMark = []) (parts : List (List Char)) :
    (spaced pre parts).map (List.filter isMark) = parts.map (List.filter isMark) := by
  induction parts generalizing pre with
  | nil => rfl
  | cons part rest ih =>
    cases rest with
    | nil => rw [spaced, List.map_singleton, List.filter_append, plain]; rfl
    | cons next rest =>
      have space : List.filter isMark [' '] = [] := by decide
      rw [spaced, List.map_cons, ih space, List.filter_append, List.filter_append, plain, space]
      simp

/-- The notation of alternatives is cut into theirs, up to white space. -/
theorem splitBars_writtenMembers {members : List WireType}
    (tight : ∀ m ∈ members, Text.Tight (written m)) (h : Separate 0 (members.map written)) :
    (splitBars 0 (writtenMembers members)).map Text.trim = members.map written := by
  have nonempty : members ≠ [] := by
    rintro rfl
    exact h
  have parts : Separate 0 (spaced [] (members.map written)) := h.congr (marks_spaced rfl _)
  have whole := writtenMembers_eq [] nonempty
  rw [List.nil_append] at whole
  rw [whole, parts.splitBars_intercalate]
  refine trim_spaced (by simp) fun part hp => ?_
  obtain ⟨m, hm, rfl⟩ := List.mem_map.mp hp
  exact tight m hm

/-- The notation of an orderly type starts and ends with something, is cut nowhere inside brackets,
and outside them only if it is that of a union. -/
theorem Orderly.shape {t : WireType} (h : Orderly NameLike EnclosedName t) :
    Text.Tight (written t) ∧ Enclosed (written t) ∧ (t.isUnion = false → Solid (written t)) := by
  induction h with
  | scalar kind =>
    obtain ⟨nonempty, plain, solid⟩ := word_letters kind
    rw [written_scalar]
    have whole := solid_of_forall plain
    exact ⟨Text.tight_of_forall nonempty solid, whole.enclosed, fun _ => whole⟩
  | array _ ih =>
    rw [written_array]
    have whole := ih.2.1.solid '[' ']' (.inl rfl) (.inl rfl)
    exact ⟨Text.tight_of_ends _ (by decide) (by decide), whole.enclosed, fun _ => whole⟩
  | @union members several _ _ ih =>
    have nonempty : members ≠ [] := by
      rintro rfl
      simp at several
    rw [written_union]
    exact ⟨tight_writtenMembers nonempty fun m hm => (ih m hm).1,
      enclosed_writtenMembers nonempty fun m hm => (ih m hm).2.1, fun single => by cases single⟩
  | named name =>
    rw [written_named]
    have whole := solid_of_isName name
    exact ⟨tight_of_isName name, whole.enclosed, fun _ => whole⟩
  | @foreign name enclosed =>
    have whole := solid_opaque.append (enclosed.solid '(' ')' (.inr rfl) (.inr rfl))
    rw [written_foreign]
    refine ⟨?_, whole.enclosed, fun _ => whole⟩
    exact Text.tight_of_ends ("paque(".toList ++ name.toList) (by decide) (by decide)

/-! ## Reading the notation back -/

theorem ofWord_word (kind : Scalar) : ofWord kind.word.toList = .ok (.scalar kind) := by
  cases kind <;> rfl

theorem ofWord_foreign (name : String) :
    ofWord ("opaque(".toList ++ (name.toList ++ [')'])) = .ok (.foreign name) := by
  have inside : foreignName? ("opaque(".toList ++ (name.toList ++ [')'])) = some name.toList := by
    rw [foreignName?, Text.dropPrefix?_append]
    exact Text.dropSuffix?_append name.toList [')']
  rw [ofWord, inside]
  simp

/-- A name starts with a capital, unlike the words for scalars and `opaque`. -/
theorem ofWord_name {cs : List Char} (h : isName cs = true) :
    ofWord cs = .ok (.named (String.ofList cs)) := by
  obtain ⟨c, rest, rfl, upper, -⟩ := alphanumeric_of_isName h
  have noForeign : foreignName? (c :: rest) = none := by
    have other : ('o' == c) = false := by
      rw [beq_eq_false_iff_ne]
      rintro rfl
      cases upper
    simp [foreignName?, Text.dropPrefix?, List.isPrefixOf, other]
  have noScalar : Scalar.ofWord? (c :: rest) = none := by
    unfold Scalar.ofWord?
    split <;> first | rfl | (rename_i word; injection word with first; subst first; cases upper)
  rw [ofWord, noForeign, noScalar]
  simp [h]

/-- A text that is no union is a type in square brackets or a word. -/
theorem read_alone {cs : List Char} (nonempty : Text.trim cs ≠ [])
    (alone : splitBars 0 (Text.trim cs) = [Text.trim cs]) :
    read cs = match bracketed? (Text.trim cs) with
      | some inner => (read inner).map .array
      | none => ofWord (Text.trim cs) := by
  rw [read]
  dsimp only
  rw [if_neg (by simpa using nonempty), dif_neg (by simp [alone])]
  split
  · rename_i inner inside
    rw [inside]
    show _ = (read inner).map WireType.array
    cases read inner <;> rfl
  · rename_i none
    rw [none]

/-- A text with bars outside brackets is a union. -/
theorem read_several {cs : List Char} (several : 1 < (splitBars 0 (Text.trim cs)).length) :
    read cs = ((splitBars 0 (Text.trim cs)).mapM read).map .union := by
  have nonempty : Text.trim cs ≠ [] := by
    intro empty
    rw [empty] at several
    simp [splitBars] at several
  rw [read]
  dsimp only
  rw [if_neg (by simpa using nonempty), dif_pos several, List.mapM_subtype fun _ _ => rfl,
    List.unattach_attach]
  cases List.mapM read (splitBars 0 (Text.trim cs)) <;> rfl

private theorem Orderly.read_single {t : WireType} (h : Orderly NameLike EnclosedName t)
    (single : t.isUnion = false) {cs : List Char} (trimmed : Text.trim cs = written t) :
    read cs = match bracketed? (written t) with
      | some inner => (read inner).map .array
      | none => ofWord (written t) := by
  have nonempty : Text.trim cs ≠ [] := by
    rw [trimmed]
    exact h.shape.1.ne_nil
  have alone : splitBars 0 (Text.trim cs) = [Text.trim cs] := by
    rw [trimmed]
    exact (h.shape.2.2 single).alone 0
  rw [read_alone nonempty alone, trimmed]

theorem bracketed?_array (cs : List Char) :
    bracketed? ('[' :: (cs ++ [']'])) = some cs :=
  Text.dropSuffix?_append cs [']']

private theorem bracketed?_none {c : Char} (h : c ≠ '[') (cs : List Char) :
    bracketed? (c :: cs) = none := by
  unfold bracketed?
  split
  · rename_i same
    injection same with first
    exact absurd first h
  · rfl

private theorem bracketed?_word (kind : Scalar) : bracketed? kind.word.toList = none := by
  cases kind <;> rfl

/-- Parts that are read each as the alternative it stands for are read as the alternatives. -/
theorem mapM_read {members : List WireType} :
    ∀ {parts : List (List Char)}, parts.map Text.trim = members.map written →
      (∀ m ∈ members, ∀ cs, Text.trim cs = written m → read cs = .ok m) →
        parts.mapM read = .ok members := by
  induction members with
  | nil =>
    intro parts h _
    rw [List.map_nil, List.map_eq_nil_iff] at h
    subst h
    rfl
  | cons m members ih =>
    intro parts h reads
    cases parts with
    | nil => cases h
    | cons part parts =>
      simp only [List.map_cons, List.cons.injEq] at h
      have first := reads m List.mem_cons_self part h.1
      have later := ih h.2 fun k hk => reads k (List.mem_cons_of_mem _ hk)
      rw [List.mapM_cons, first, later]
      rfl

/-- A text that is the notation of an orderly type, up to white space around it, is read as that
type. -/
theorem Orderly.read_written {t : WireType} (h : Orderly NameLike EnclosedName t) :
    ∀ cs, Text.trim cs = written t → read cs = .ok t := by
  induction h with
  | scalar kind =>
    intro cs trimmed
    rw [(Orderly.scalar kind).read_single rfl trimmed, written_scalar, bracketed?_word]
    exact ofWord_word kind
  | @array element orderly ih =>
    intro cs trimmed
    have inner := ih (written element) (Text.trim_of_tight orderly.shape.1)
    rw [orderly.array.read_single rfl trimmed, written_array, bracketed?_array]
    show (read (written element)).map WireType.array = .ok (.array element)
    rw [inner]
    rfl
  | @union members several orderly single ih =>
    intro cs trimmed
    have nonempty : members ≠ [] := by
      rintro rfl
      simp at several
    have separate : Separate 0 (members.map written) := by
      refine separate_of_solid (by simpa using nonempty) fun part hp => ?_
      obtain ⟨m, hm, rfl⟩ := List.mem_map.mp hp
      exact (orderly m hm).shape.2.2 (single m hm)
    have parts := splitBars_writtenMembers (fun m hm => (orderly m hm).shape.1) separate
    have count : (splitBars 0 (writtenMembers members)).length = members.length := by
      simpa using congrArg List.length parts
    rw [written_union] at trimmed
    rw [read_several (by rw [trimmed, count]; omega), trimmed, mapM_read parts ih]
    rfl
  | @named name isName =>
    intro cs trimmed
    obtain ⟨c, rest, cons, upper, -⟩ := alphanumeric_of_isName isName
    have noArray : bracketed? name.toList = none := by
      rw [cons]
      refine bracketed?_none ?_ rest
      rintro rfl
      cases upper
    rw [(Orderly.named isName).read_single rfl trimmed, written_named, noArray]
    show ofWord name.toList = _
    rw [ofWord_name isName, String.ofList_toList]
  | @foreign name enclosed =>
    intro cs trimmed
    rw [(Orderly.foreign enclosed).read_single rfl trimmed]
    exact ofWord_foreign name

/-- Orderly types are read back from their notation. -/
theorem Orderly.readable {t : WireType} (h : Orderly NameLike EnclosedName t) : Readable t := by
  refine h.read_written _ ?_
  rw [notationOf, String.toList_ofList]
  exact Text.trim_of_tight h.shape.1

end ApiReference.WireType
