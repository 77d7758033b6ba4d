import ApiReference.Proofs.Catalog.RoundTrip
import ApiReference.Proofs.WireType.Reread

/-!
Catalogs loaded from dumps of any make. Reading a record puts one member after the other into it,
so what holds of the empty record and is kept by each member holds of what is read. The types in
dumps are read off notation, so a loaded catalog is what its own dumps hold.
-/

namespace ApiReference

open Json

section

variable {ε α : Type} {P : α → Prop}

/-- What each member keeps, all members keep. -/
theorem of_fillMembers_ok {names : List String} {put : String → Parsed → α → Except (Fault ε) α}
    (keeps : ∀ name p record next, P record → put name p record = .ok next → P next) :
    ∀ {members : List (Option String × Parsed)} {seen : List String} {record : α}
      {filled : List String × α}, P record →
      fillMembers names put seen record members = .ok filled → P filled.2 := by
  intro members
  induction members with
  | nil =>
    intro seen record filled start h
    cases h
    exact start
  | cons member rest ih =>
    intro seen record filled start h
    obtain ⟨name?, p⟩ := member
    cases name? with
    | none => cases h
    | some name =>
      rw [fillMembers] at h
      split at h
      · split at h
        · cases h
        · obtain ⟨next, put, h⟩ := of_bind_ok h
          exact ih (keeps name p record next start put) h
      · split at h
        · exact ih start h
        · cases h

/-- What holds of the empty record and is kept by each member holds of the record read. -/
theorem of_asRecord_ok {names required : List String} {record read : α}
    {put : String → Parsed → α → Except (Fault ε) α} {p : Parsed} (start : P record)
    (keeps : ∀ name p record next, P record → put name p record = .ok next → P next)
    (h : Parsed.asRecord names required record put p = .ok read) : P read := by
  have members : ∃ members, (fillMembers names put [] record members >>= fun filled =>
      if required.all filled.1.contains then pure filled.2 else throw Fault.shape) = .ok read := by
    unfold Parsed.asRecord at h
    cases p with
    | object members => exact ⟨members, h⟩
    | list items => exact ⟨nameItems names items, h⟩
    | _ => cases h
  obtain ⟨members, h⟩ := members
  obtain ⟨filled, fills, h⟩ := of_bind_ok h
  split at h
  · cases h
    exact of_fillMembers_ok keeps start fills
  · cases h

/-- Each thing in a list that is read is read off one of its items. -/
theorem of_asList_ok {read : Parsed → Except (Fault ε) α} {p : Parsed} {as : List α}
    (h : p.asList read = .ok as) : ∀ a ∈ as, ∃ item, read item = .ok a := by
  unfold Parsed.asList at h
  split at h
  · intro a ha
    obtain ⟨item, -, reads⟩ := (of_mapM_ok h).2 a ha
    exact ⟨item, reads⟩
  · cases h

theorem of_read_ok {text : String} {read : Parsed → Except (Fault ε) α} {a : α}
    (h : Json.read text read = .ok a) : ∃ p, read p = .ok a := by
  unfold Json.read at h
  generalize parse text = parsed at h
  obtain ⟨p, ended⟩ := parsed
  obtain ⟨b, reads, h⟩ := of_bind_ok h
  split at h
  · cases h
    exact ⟨p, reads⟩
  · cases h

end

/-! ## The types that dumps hold -/

/-- The type of a member that the record lacks. -/
theorem WireType.readable_default : (default : WireType).Readable := by
  exact (WireType.Orderly.scalar .bool).readable

theorem WireType.readable_of_ofJson {p : Parsed} {t : WireType} (h : WireType.ofJson p = .ok t) :
    t.Readable := by
  unfold WireType.ofJson at h
  obtain ⟨text, -, h⟩ := of_bind_ok h
  exact WireType.readable_of_ofNotation (of_mapError_ok h)

theorem Field.readable_of_ofJson {p : Parsed} {f : Field} (h : Field.ofJson p = .ok f) :
    f.type.Readable := by
  have start : (default : Field).type.Readable := WireType.readable_default
  refine of_asRecord_ok (P := fun f : Field => f.type.Readable) start ?_ h
  intro name p f next readable put
  unfold Field.put at put
  split at put
  all_goals
    obtain ⟨value, read, put⟩ := of_bind_ok put
    cases put
  case h_2 => exact WireType.readable_of_ofJson read
  all_goals exact readable

theorem Parameter.readable_of_ofJson {p : Parsed} {q : Parameter}
    (h : Parameter.ofJson p = .ok q) : q.type.Readable := by
  have start : (default : Parameter).type.Readable := WireType.readable_default
  refine of_asRecord_ok (P := fun q : Parameter => q.type.Readable) start ?_ h
  intro name p q next readable put
  unfold Parameter.put at put
  split at put
  all_goals
    obtain ⟨value, read, put⟩ := of_bind_ok put
    cases put
  case h_2 => exact WireType.readable_of_ofJson read
  all_goals exact readable

theorem DataType.readable_of_ofJson {p : Parsed} {t : DataType} (h : DataType.ofJson p = .ok t) :
    t.Readable := by
  refine of_asRecord_ok (P := DataType.Readable) (by simp [DataType.Readable]) ?_ h
  intro name p t next readable put
  unfold DataType.put at put
  split at put
  all_goals
    obtain ⟨value, read, put⟩ := of_bind_ok put
    cases put
  case h_4 =>
    intro f hf
    obtain ⟨item, field⟩ := of_asList_ok read f hf
    exact Field.readable_of_ofJson field
  all_goals exact readable

theorem Operation.readable_of_ofJson {p : Parsed} {o : Operation}
    (h : Operation.ofJson p = .ok o) : o.Readable := by
  have start : (default : Operation).Readable :=
    ⟨List.forall_mem_nil _, WireType.readable_default⟩
  refine of_asRecord_ok (P := Operation.Readable) start ?_ h
  intro name p o next readable put
  unfold Operation.put at put
  split at put
  all_goals
    obtain ⟨value, read, put⟩ := of_bind_ok put
    cases put
  case h_4 =>
    refine ⟨fun q hq => ?_, readable.returns⟩
    obtain ⟨item, parameter⟩ := of_asList_ok read q hq
    exact Parameter.readable_of_ofJson parameter
  case h_5 => exact ⟨readable.parameters, WireType.readable_of_ofJson read⟩
  all_goals exact ⟨readable.parameters, readable.returns⟩

/-- Whatever dumps a catalog was loaded from, its types are read back from their notation. -/
theorem Catalog.readable_of_ofDumps {types operations : String} {c : Catalog}
    (h : Catalog.ofDumps types operations = .ok c) : c.Readable := by
  unfold Catalog.ofDumps at h
  obtain ⟨ts, readTypes, h⟩ := of_bind_ok h
  obtain ⟨os, readOperations, h⟩ := of_bind_ok h
  cases h
  obtain ⟨p, list⟩ := of_read_ok (of_mapError_ok readTypes)
  obtain ⟨q, others⟩ := of_read_ok (of_mapError_ok readOperations)
  refine ⟨fun t ht => ?_, fun o ho => ?_⟩
  · obtain ⟨item, type⟩ := of_asList_ok list t ht
    exact DataType.readable_of_ofJson type
  · obtain ⟨item, operation⟩ := of_asList_ok others o ho
    exact Operation.readable_of_ofJson operation

/-- A catalog loaded from dumps is what its own dumps hold. -/
theorem Catalog.ofDumps_dump_of_ofDumps {types operations : String} {c : Catalog}
    (h : Catalog.ofDumps types operations = .ok c) (s : OutputSettings) :
    Catalog.ofDumps (c.artifacts s).typesDump (c.artifacts s).operationsDump = .ok c :=
  Catalog.ofDumps_dump (Catalog.readable_of_ofDumps h)

end ApiReference
