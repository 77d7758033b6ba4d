import ApiReference.Json.Parsed

/-!
Records read from JSON. A record is an object, or a list with its members in their usual order.
Members are read in the order of the text, and the first fault counts.
-/

namespace ApiReference.Json

/-- Why JSON cannot be read as what is wanted: it has the wrong shape, or a string in it does not
stand for a value. -/
inductive Fault (ε : Type) where
  | shape
  | content (fault : ε)
  deriving DecidableEq

variable {ε : Type} {α : Type}

def Parsed.asText : Parsed → Except (Fault ε) String
  | .text (some s) => .ok s
  | _ => .error .shape

def Parsed.asBool : Parsed → Except (Fault ε) Bool
  | .bool b => .ok b
  | _ => .error .shape

def Parsed.asNumber (bound : Nat) : Parsed → Except (Fault ε) Nat
  | .number (some n) => if n < bound then .ok n else .error .shape
  | _ => .error .shape

def Parsed.asOptional (read : Parsed → Except (Fault ε) α) : Parsed → Except (Fault ε) (Option α)
  | .null => .ok none
  | p => (read p).map some

def Parsed.asList (read : Parsed → Except (Fault ε) α) : Parsed → Except (Fault ε) (List α)
  | .list items => items.mapM read
  | _ => .error .shape

/-- Items of a list with the names of the members that they stand for; those that stand for none
have no name. -/
def nameItems : List String → List Parsed → List (Option String × Parsed)
  | _, [] => []
  | [], p :: items => (none, p) :: nameItems [] items
  | name :: names, p :: items => (some name, p) :: nameItems names items

/-- Puts the members of a record into it one after the other. Members that the record does not
know are passed over; `seen` holds the names that came before, none of which may come again. -/
def fillMembers (names : List String) (put : String → Parsed → α → Except (Fault ε) α)
    (seen : List String) (record : α) :
    List (Option String × Parsed) → Except (Fault ε) (List String × α)
  | [] => .ok (seen, record)
  | (none, _) :: _ => .error .shape
  | (some name, p) :: rest =>
    if names.contains name then
      if seen.contains name then .error .shape
      else do
        let record ← put name p record
        fillMembers names put (name :: seen) record rest
    else if p.isWhole then fillMembers names put seen record rest
    else .error .shape

/-- Reads a record whose members have the given names and, if they are missing, the values that
they have in `record`. The members in `required` must be there. -/
def Parsed.asRecord (names required : List String) (record : α)
    (put : String → Parsed → α → Except (Fault ε) α) (p : Parsed) : Except (Fault ε) α := do
  let members ← match p with
    | .object members => pure members
    | .list items => pure (nameItems names items)
    | _ => throw .shape
  let (seen, record) ← fillMembers names put [] record members
  if required.all seen.contains then return record else throw .shape

def read (text : String) (read : Parsed → Except (Fault ε) α) : Except (Fault ε) α := do
  let (p, ended) := parse text
  let a ← read p
  if ended then return a else throw .shape

end ApiReference.Json
