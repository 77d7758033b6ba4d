import ApiReference.Proofs.WireType.Reread
import ApiReference.Proofs.WireType.Within

/-!
What notation can be read as. A text is read as a union only if a bar outside brackets cuts it, and
what it is cut into is cut no further. So every union that is read has two alternatives at least,
none of them a union, at any depth (`orderly_of_read`), and what is read is read back from its own
notation (`unions_of_ofNotation`).
-/

namespace ApiReference.WireType

/-- Each of several parts on its own is cut nowhere. -/
theorem Separate.single {parts : List (List Char)} (h : Separate 0 parts) :
    ∀ part ∈ parts, Separate 0 [part] := by
  induction parts with
  | nil => exact h.elim
  | cons first rest ih =>
    intro part among
    cases rest with
    | nil =>
      obtain rfl := List.mem_singleton.mp among
      exact h
    | cons next rest =>
      rcases List.mem_cons.mp among with rfl | later
      · rw [Separate, h.1]
        rfl
      · exact ih h.2 part later

/-- What a text is cut into is cut no further, also without the white space around it. -/
theorem alone_of_mem_splitBars {cs part : List Char} (h : part ∈ splitBars 0 cs) :
    splitBars 0 (Text.trim part) = [Text.trim part] := by
  have alone := ((separate_splitBars 0 cs).single part h).splitBars_intercalate
  rw [List.intercalate_singleton] at alone
  exact splitBars_alone_congr alone (marks_trim part)

/-- A word is a scalar or a name. -/
theorem orderly_of_ofWord {cs : List Char} {t : WireType} (h : ofWord cs = .ok t) :
    t.Orderly NameLike (fun _ => True) ∧ t.isUnion = false := by
  unfold ofWord at h
  split at h
  · cases h
    exact ⟨.foreign trivial, rfl⟩
  · split at h
    · rename_i kind _
      cases h
      exact ⟨.scalar kind, rfl⟩
    · split at h
      · rename_i name
        cases h
        exact ⟨.named (by rw [NameLike, String.toList_ofList]; exact name), rfl⟩
      · cases h

theorem trim_ne_nil_of_read {cs : List Char} {t : WireType} (h : read cs = .ok t) :
    Text.trim cs ≠ [] := by
  intro empty
  rw [read_blank empty] at h
  cases h

/-- A text that is cut nowhere is read as no union. -/
theorem isUnion_of_read_alone {cs : List Char} {t : WireType}
    (alone : splitBars 0 (Text.trim cs) = [Text.trim cs]) (h : read cs = .ok t) :
    t.isUnion = false := by
  rw [read_alone (trim_ne_nil_of_read h) alone] at h
  split at h
  · obtain ⟨element, _, rfl⟩ := of_map_ok h
    rfl
  · exact (orderly_of_ofWord h).2

/-- Types that are read off notation are nested as a reader expects. -/
theorem orderly_of_read {cs : List Char} {t : WireType} (h : read cs = .ok t) :
    t.Orderly NameLike fun _ => True := by
  have shorter := Text.length_trim_le cs
  rcases splitBars_alone_or_several (Text.trim cs) with alone | several
  · rw [read_alone (trim_ne_nil_of_read h) alone] at h
    cases inside : bracketed? (Text.trim cs) with
    | none =>
      rw [inside] at h
      exact (orderly_of_ofWord h).1
    | some inner =>
      rw [inside] at h
      obtain ⟨element, inner', rfl⟩ := of_map_ok h
      have less := length_lt_of_bracketed? inside
      exact (orderly_of_read inner').array
  · rw [read_several several] at h
    obtain ⟨members, parts, rfl⟩ := of_map_ok h
    obtain ⟨count, each⟩ := of_mapM_ok parts
    refine .union (by omega) (fun m hm => ?_) fun m hm => ?_
    · obtain ⟨part, among, read⟩ := each m hm
      have less := length_lt_of_mem_splitBars among several
      exact orderly_of_read read
    · obtain ⟨part, among, read⟩ := each m hm
      exact isUnion_of_read_alone (alone_of_mem_splitBars among) read
termination_by cs.length
decreasing_by
  all_goals omega

/-- A type that is read off any text is read back from its own notation, and each union in it, at
any depth, has two alternatives at least, none of them a union itself. -/
theorem unions_of_ofNotation {text : String} {t : WireType} (h : ofNotation text = .ok t) :
    ofNotation (notationOf t) = .ok t ∧
      ∀ members, (WireType.union members).Within t →
        2 ≤ members.length ∧ ∀ m ∈ members, m.isUnion = false :=
  ⟨readable_of_ofNotation h, fun _ => (orderly_of_read h).union_within⟩

/-- Alternatives with brackets that are never closed, or never opened, and a bar in their names. -/
def oddNames : WireType :=
  .union [.foreign " a]", .array (.union [.scalar .int, .foreign "[) | opaque(x"])]

/-- The bar in a foreign name cuts nothing, before and after the white space is put in order. -/
theorem unions_of_oddNames :
    ofNotation " opaque( a]) |[int|  opaque([) | opaque(x) ]" = .ok oddNames ∧
      notationOf oddNames = "opaque( a]) | [int | opaque([) | opaque(x)]" ∧
      ofNotation (notationOf oddNames) = .ok oddNames ∧
      ∀ members, (WireType.union members).Within oddNames →
        2 ≤ members.length ∧ ∀ m ∈ members, m.isUnion = false := by
  have read : ofNotation " opaque( a]) |[int|  opaque([) | opaque(x) ]" = .ok oddNames := by
    cbv
  exact ⟨read, by decide +kernel, unions_of_ofNotation read⟩

end ApiReference.WireType
