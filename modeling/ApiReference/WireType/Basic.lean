import ApiReference.Text.Blank

/-!
The types of the values that a documented interface takes and returns: scalars, arrays, unions
of alternatives, and named types, which `WireType.resolve` divides into the data types of the
page and all others.
-/

namespace ApiReference

inductive Scalar where
  | bool
  | int
  | int64
  | float
  | string
  deriving DecidableEq, Inhabited

def Scalar.word : Scalar → String
  | .bool => "bool"
  | .int => "int"
  | .int64 => "int64"
  | .float => "float"
  | .string => "string"

def Scalar.ofWord? : List Char → Option Scalar
  | ['b', 'o', 'o', 'l'] => some .bool
  | ['i', 'n', 't'] => some .int
  | ['i', 'n', 't', '6', '4'] => some .int64
  | ['f', 'l', 'o', 'a', 't'] => some .float
  | ['s', 't', 'r', 'i', 'n', 'g'] => some .string
  | _ => none

inductive WireType where
  | scalar (kind : Scalar)
  | array (element : WireType)
  /-- Alternatives in the order of the page; repeated ones are kept. -/
  | union (members : List WireType)
  /-- A data type of the page, or a name not yet looked up. -/
  | named (name : String)
  /-- A name that is no data type of the page; its values are passed on as they are. -/
  | foreign (name : String)
  deriving Inhabited

mutual

def WireType.decEq : (a b : WireType) → Decidable (a = b)
  | .scalar a, .scalar b => if h : a = b then isTrue (h ▸ rfl) else isFalse (fun e => h (by injection e))
  | .array a, .array b =>
    match WireType.decEq a b with
    | isTrue h => isTrue (h ▸ rfl)
    | isFalse h => isFalse (fun e => h (by injection e))
  | .union a, .union b =>
    match WireType.decEqList a b with
    | isTrue h => isTrue (h ▸ rfl)
    | isFalse h => isFalse (fun e => h (by injection e))
  | .named a, .named b => if h : a = b then isTrue (h ▸ rfl) else isFalse (fun e => h (by injection e))
  | .foreign a, .foreign b => if h : a = b then isTrue (h ▸ rfl) else isFalse (fun e => h (by injection e))
  | .scalar _, .array _ | .scalar _, .union _ | .scalar _, .named _ | .scalar _, .foreign _
  | .array _, .scalar _ | .array _, .union _ | .array _, .named _ | .array _, .foreign _
  | .union _, .scalar _ | .union _, .array _ | .union _, .named _ | .union _, .foreign _
  | .named _, .scalar _ | .named _, .array _ | .named _, .union _ | .named _, .foreign _
  | .foreign _, .scalar _ | .foreign _, .array _ | .foreign _, .union _ | .foreign _, .named _ =>
    isFalse (fun e => by injection e)

def WireType.decEqList : (as bs : List WireType) → Decidable (as = bs)
  | [], [] => isTrue rfl
  | [], _ :: _ => isFalse (fun e => by injection e)
  | _ :: _, [] => isFalse (fun e => by injection e)
  | a :: as, b :: bs =>
    match WireType.decEq a b, WireType.decEqList as bs with
    | isTrue h, isTrue hs => isTrue (h ▸ hs ▸ rfl)
    | isFalse h, _ => isFalse (fun e => h (by injection e))
    | _, isFalse hs => isFalse (fun e => hs (by injection e))

end

instance : DecidableEq WireType := WireType.decEq

namespace WireType

/-- `depth` arrays around a type. -/
def arrays : Nat → WireType → WireType
  | 0, t => t
  | depth + 1, t => .array (arrays depth t)

end WireType

/-- The names of the data types of a page. -/
structure TypeRegistry where
  /-- Each name once. -/
  names : List String
  nodup : names.Nodup

namespace TypeRegistry

def contains (r : TypeRegistry) (name : String) : Bool := r.names.contains name

def size (r : TypeRegistry) : Nat := r.names.length

def insert (r : TypeRegistry) (name : String) : TypeRegistry :=
  if h : name ∈ r.names then r else ⟨name :: r.names, List.nodup_cons.2 ⟨h, r.nodup⟩⟩

def ofList (names : List String) : TypeRegistry := names.foldl insert ⟨[], List.nodup_nil⟩

theorem contains_insert (r : TypeRegistry) (name n : String) :
    (r.insert name).contains n = (n == name || r.contains n) := by
  unfold insert
  split
  · rename_i h
    by_cases hn : n = name
    · subst hn
      simp [contains, h]
    · simp [hn]
  · simp only [contains, List.contains_cons]

private theorem contains_foldl_insert (n : String) (names : List String) :
    ∀ r : TypeRegistry,
      (names.foldl insert r).contains n = (names.contains n || r.contains n) := by
  induction names with
  | nil => intro r; simp
  | cons m names ih =>
    intro r
    rw [List.foldl_cons, ih, contains_insert, List.contains_cons]
    cases n == m <;> cases names.contains n <;> rfl

/-- A registry holds the names it was made from and no others. -/
theorem contains_ofList (names : List String) (n : String) :
    (ofList names).contains n = names.contains n := by
  rw [ofList, contains_foldl_insert]
  simp [contains]

end TypeRegistry

/-- A type in which every name that the registry lacks is marked as foreign. -/
def WireType.resolve (registry : TypeRegistry) : WireType → WireType
  | .scalar kind => .scalar kind
  | .array element => .array (element.resolve registry)
  | .union members => .union (members.map fun m => m.resolve registry)
  | .named name => if registry.contains name then .named name else .foreign name
  | .foreign name => .foreign name

end ApiReference
