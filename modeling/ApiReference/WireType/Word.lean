import ApiReference.Error
import ApiReference.Text.Case
import ApiReference.Text.Alphanumeric
import ApiReference.WireType.Notation

/-!
Type words as reference pages write them. A word names a scalar in any letter case, or a data
type; which integer `Integer` means depends on the name of the field it describes.
-/

namespace ApiReference

inductive TypeFault where
  | bareArray (word : String)
  | unknown (word : String)
  deriving DecidableEq

def TypeFault.message : TypeFault → String
  | .bareArray word => s!"type token '{word}' is a bare array without element type"
  | .unknown word => s!"unknown type token '{word}'"

def TypeFault.toError (f : TypeFault) : Error := .parse f.message

/-- Whether a field name announces an identifier, which needs the wider integer. -/
def isIdentifierName (name : String) : Bool :=
  name == "id" || Text.occursIn ['_', 'i', 'd'] name.toList

namespace WireType

/-- A type word without white space around it and without the stars of emphasis. -/
def bareWord (cs : List Char) : List Char :=
  let isStar (c : Char) : Bool := c == '*'
  let inner := (Text.trim cs).dropWhile isStar
  Text.trim (inner.reverse.dropWhile isStar).reverse

/-- What a type word means for a field of the given name, if there is a field. -/
def ofPageWord (field : Option String) (cs : List Char) : Except TypeFault WireType :=
  let word := bareWord cs
  match Text.lowercase (String.ofList word) with
  | "integer" => .ok (.scalar (if field.any isIdentifierName then .int64 else .int))
  | "int" => .ok (.scalar .int)
  | "int64" => .ok (.scalar .int64)
  | "boolean" | "bool" | "true" => .ok (.scalar .bool)
  | "float" | "float number" => .ok (.scalar .float)
  | "string" => .ok (.scalar .string)
  | "array" => .error (.bareArray (String.ofList word))
  | _ =>
    if isName word then .ok (.named (String.ofList word))
    else .error (.unknown (String.ofList word))

def unionOf (field : String) (words : List (List Char)) : Except TypeFault WireType := do
  return .union (← words.mapM (ofPageWord (some field)))

/-- A text without one leading `array of `, in any ASCII letter case, and the white space after
it. -/
def dropArrayOf? (cs : List Char) : Option (List Char) :=
  if (cs.take 9).map Char.toLower == "array of ".toList then some (Text.trimStart (cs.drop 9))
  else none

theorem length_lt_of_dropArrayOf? {cs rest : List Char} (h : dropArrayOf? cs = some rest) :
    rest.length < cs.length := by
  unfold dropArrayOf? at h
  split at h
  · rename_i starts
    injection h with h
    subst h
    have nine : ((cs.take 9).map Char.toLower).length = 9 := by
      rw [beq_iff_eq.1 starts]
      rfl
    have := (List.dropWhile_sublist (l := cs.drop 9) Text.isBlank).length_le
    simp only [List.length_map, List.length_take] at nine
    simp only [Text.trimStart, List.length_drop] at *
    omega
  · cases h

/-- The number of `array of ` at the start of a text, and what follows them. -/
def stripArrays (cs : List Char) : Nat × List Char :=
  match _h : dropArrayOf? cs with
  | some rest =>
    let (depth, last) := stripArrays rest
    (depth + 1, last)
  | none => (0, cs)
termination_by cs.length
decreasing_by exact length_lt_of_dropArrayOf? _h

theorem stripArrays_of_none {cs : List Char} (h : dropArrayOf? cs = none) :
    stripArrays cs = (0, cs) := by
  rw [stripArrays]
  split
  · rename_i rest found
    rw [h] at found
    cases found
  · rfl

theorem stripArrays_of_some {cs rest : List Char} (h : dropArrayOf? cs = some rest) :
    stripArrays cs = ((stripArrays rest).1 + 1, (stripArrays rest).2) := by
  rw [stripArrays]
  split
  · rename_i rest' found
    obtain rfl := Option.some.inj (h.symm.trans found)
    rfl
  · rename_i none
    rw [h] at none
    cases none

def unionWord : List Char := " or ".toList

/-- What a type text means for a field of the given name: any number of `array of `, then one
word or alternatives with ` or ` between them. -/
def ofPageText (field text : String) : Except TypeFault WireType := do
  let (depth, rest) := stripArrays (Text.trim text.toList)
  let base ←
    if Text.occursIn unionWord rest then unionOf field (Text.splitOn unionWord rest)
    else ofPageWord (some field) rest
  return arrays depth base

/-- What a type text means when some of its words are links: two or more links are the
alternatives, whatever stands between them, and a single link is the type if the text names no
alternatives. -/
def ofLinkedText (field text : String) (links : List String) : Except TypeFault WireType := do
  let (depth, rest) := stripArrays (Text.trim text.toList)
  let base ←
    match links with
    | _ :: _ :: _ => unionOf field (links.map String.toList)
    | _ =>
      if Text.occursIn unionWord rest then unionOf field (Text.splitOn unionWord rest)
      else match links with
        | link :: _ => ofPageWord (some field) link.toList
        | [] => ofPageWord (some field) rest
  return arrays depth base

end WireType

end ApiReference
