import ApiReference.Error
import ApiReference.Text.Alphanumeric
import ApiReference.Text.Split
import ApiReference.WireType.Basic

/-!
The compact notation for types: `int64`, `[Message]`, `int64 | string`, `Message` for a data
type, and `opaque(InputFile)` for a foreign name. `WireType.notationOf` writes it and
`WireType.ofNotation` reads it, with any white space around the parts.
-/

namespace ApiReference

inductive NotationFault where
  | empty
  | invalid (text : String)
  deriving DecidableEq

def NotationFault.message : NotationFault → String
  | .empty => "empty type notation"
  | .invalid text => s!"invalid type notation '{text}'"

def NotationFault.toError (f : NotationFault) : Error := .validation f.message

namespace WireType

mutual

def written : WireType → List Char
  | .scalar kind => kind.word.toList
  | .array element => '[' :: (written element ++ [']'])
  | .union members => writtenMembers members
  | .named name => name.toList
  | .foreign name => "opaque(".toList ++ name.toList ++ [')']

def writtenMembers : List WireType → List Char
  | [] => []
  | [m] => written m
  | m :: n :: rest => written m ++ [' ', '|', ' '] ++ writtenMembers (n :: rest)

end

def notationOf (t : WireType) : String := String.ofList (written t)

/-- The number of open brackets after one more character. -/
def bracketDepth (depth : Nat) (c : Char) : Nat :=
  if c == '[' || c == '(' then depth + 1
  else if c == ']' || c == ')' then depth - 1
  else depth

/-- The parts of a text between the bars that stand outside all brackets, where `depth` brackets
are open at its start. -/
def splitBars : Nat → List Char → List (List Char)
  | _, [] => [[]]
  | depth, c :: cs =>
    if c == '|' && depth == 0 then [] :: splitBars 0 cs
    else match splitBars (bracketDepth depth c) cs with
      | [] => [[c]]
      | part :: parts => (c :: part) :: parts

theorem splitBars_ne_nil (depth : Nat) (cs : List Char) : splitBars depth cs ≠ [] := by
  cases cs with
  | nil => simp [splitBars]
  | cons c cs =>
    rw [splitBars]
    split
    · simp
    · split <;> simp

/-- The parts and the bars between them make up the whole text. -/
theorem sum_length_splitBars (cs : List Char) :
    ∀ depth, ((splitBars depth cs).map List.length).foldr (· + ·) 0 +
      (splitBars depth cs).length
      = cs.length + 1 := by
  induction cs with
  | nil => intro depth; simp [splitBars]
  | cons c cs ih =>
    intro depth
    rw [splitBars]
    split
    · have := ih 0
      simp only [List.map_cons, List.length_nil, List.foldr_cons, List.length_cons]
      omega
    · have h := ih (bracketDepth depth c)
      split
      · rename_i hs
        exact absurd hs (splitBars_ne_nil _ _)
      · rename_i part parts hs
        rw [hs] at h
        simp only [List.map_cons, List.length_cons, List.foldr_cons] at h ⊢
        omega

private theorem length_le_sum {part : List Char} {parts : List (List Char)} (h : part ∈ parts) :
    part.length ≤ (parts.map List.length).foldr (· + ·) 0 := by
  induction parts with
  | nil => simp at h
  | cons p ps ih =>
    simp only [List.map_cons, List.foldr_cons]
    rcases List.mem_cons.1 h with rfl | h
    · omega
    · have := ih h
      omega

theorem length_lt_of_mem_splitBars {part cs : List Char} (h : part ∈ splitBars 0 cs)
    (several : 1 < (splitBars 0 cs).length) : part.length < cs.length := by
  have total := sum_length_splitBars cs 0
  have := length_le_sum h
  omega

end WireType

theorem Text.length_trim_le (cs : List Char) : (Text.trim cs).length ≤ cs.length := by
  have drop (p : Char → Bool) (xs : List Char) : (xs.dropWhile p).length ≤ xs.length :=
    (List.dropWhile_sublist p).length_le
  simp only [Text.trim, Text.trimEnd, Text.trimStart, List.length_reverse]
  have h₁ := drop Text.isBlank (cs.dropWhile Text.isBlank).reverse
  have h₂ := drop Text.isBlank cs
  simp only [List.length_reverse] at h₁
  omega

namespace WireType

/-- Whether a word can be the name of a data type: an ASCII capital, then letters and numbers. -/
def isName : List Char → Bool
  | [] => false
  | c :: cs => c.isUpper && (c :: cs).all Text.isAlphanumeric

def bracketed? : List Char → Option (List Char)
  | '[' :: cs => Text.dropSuffix? [']'] cs
  | _ => none

def foreignName? (cs : List Char) : Option (List Char) :=
  (Text.dropPrefix? "opaque(".toList cs).bind (Text.dropSuffix? [')'])

theorem length_lt_of_bracketed? {cs inner : List Char} (h : bracketed? cs = some inner) :
    inner.length < cs.length := by
  unfold bracketed? at h
  split at h
  · unfold Text.dropSuffix? at h
    split at h
    · injection h with h
      subst h
      simp only [List.length_take, List.length_cons]
      omega
    · cases h
  · cases h

/-- Reads one alternative, without white space around it, that holds no bar outside brackets and
no pair of square brackets around all of it. -/
def ofWord (cs : List Char) : Except NotationFault WireType :=
  match foreignName? cs with
  | some name => .ok (.foreign (String.ofList name))
  | none =>
    match Scalar.ofWord? cs with
    | some kind => .ok (.scalar kind)
    | none =>
      if isName cs then .ok (.named (String.ofList cs))
      else .error (.invalid (String.ofList cs))

def read (cs : List Char) : Except NotationFault WireType :=
  let text := Text.trim cs
  if text.isEmpty then .error .empty
  else if _several : 1 < (splitBars 0 text).length then do
    let members ← (splitBars 0 text).attach.mapM fun ⟨part, _⟩ => read part
    return .union members
  else
    match _inside : bracketed? text with
    | some inner => do return .array (← read inner)
    | none => ofWord text
termination_by cs.length
decreasing_by
  · rename_i part_mem
    have shorter := length_lt_of_mem_splitBars part_mem _several
    have whole : text.length ≤ cs.length := Text.length_trim_le cs
    omega
  · have shorter := length_lt_of_bracketed? _inside
    have whole : text.length ≤ cs.length := Text.length_trim_le cs
    omega

def ofNotation (s : String) : Except NotationFault WireType := read s.toList

end WireType

end ApiReference
