import ApiReference.Json.Record
import ApiReference.Proofs.Json.RoundTrip

/-!
Records read back. `Fills` says what a stretch of the members of an object does to a record that
is being read, and stretches with different names go one after the other.
-/

namespace ApiReference.Json

variable {ε α : Type} {names required : List String}
  {put : String → Parsed → α → Except (Fault ε) α}

/-- Members with names among `known`, none of them read before, turn `record` into `filled`. -/
structure Fills (names : List String) (put : String → Parsed → α → Except (Fault ε) α)
    (known : List String) (members : List (String × Json)) (record filled : α) : Prop where
  named : ∀ m ∈ members, m.1 ∈ known
  run : ∀ seen rest, (∀ n ∈ known, n ∉ seen) →
    fillMembers names put seen record (parsedMembers members ++ rest) =
      fillMembers names put ((members.map Prod.fst).reverse ++ seen) filled rest

theorem Fills.nothing (known : List String) (record : α) :
    Fills names put known [] record record where
  named := by simp
  run := by
    intro seen rest _
    simp [parsedMembers]

theorem Fills.member {name : String} {j : Json} {record filled : α}
    (listed : names.contains name = true) (h : put name (parsed j) record = .ok filled) :
    Fills names put [name] [(name, j)] record filled where
  named := by simp
  run := by
    intro seen rest new
    have unseen : seen.contains name = false := by
      simpa using new name List.mem_cons_self
    simp only [parsedMembers, List.cons_append, List.nil_append]
    rw [fillMembers, if_pos listed, if_neg (by rw [unseen]; exact Bool.false_ne_true), h]
    rfl

/-- Two stretches of members with different names follow one another. -/
theorem Fills.append {known later : List String} {members more : List (String × Json)}
    {record half filled : α} (h : Fills names put known members record half)
    (k : Fills names put later more half filled) (apart : ∀ n ∈ later, n ∉ known) :
    Fills names put (known ++ later) (members ++ more) record filled where
  named := by
    intro m hm
    rcases List.mem_append.mp hm with first | second
    · exact List.mem_append_left _ (h.named m first)
    · exact List.mem_append_right _ (k.named m second)
  run := by
    intro seen rest new
    have unseen : ∀ n ∈ later, n ∉ (members.map Prod.fst).reverse ++ seen := by
      intro n hn mem
      rcases List.mem_append.mp mem with among | before
      · obtain ⟨m, hm, rfl⟩ := List.mem_map.mp (List.mem_reverse.mp among)
        exact apart _ hn (h.named m hm)
      · exact new n (List.mem_append_right _ hn) before
    rw [parsedMembers_append, List.append_assoc,
      h.run seen _ fun n hn => new n (List.mem_append_left _ hn), k.run _ _ unseen]
    simp

/-- An object is read as the record that its members fill, if the required ones are there. -/
theorem Fills.asRecord {known : List String} {members : List (String × Json)} {record filled : α}
    (h : Fills names put known members record filled)
    (there : ∀ n ∈ required, n ∈ members.map Prod.fst) :
    Parsed.asRecord names required record put (parsed (.object members)) = .ok filled := by
  have whole := h.run [] [] (by simp)
  simp only [List.append_nil] at whole
  have all : required.all (members.map Prod.fst).reverse.contains = true := by
    rw [List.all_eq_true]
    intro n hn
    simpa using there n hn
  rw [parsed, Parsed.asRecord]
  show (fillMembers names put [] record (parsedMembers members)).bind _ = _
  rw [whole, fillMembers]
  show (if required.all _ then _ else _) = _
  rw [if_pos all]
  rfl

end ApiReference.Json
