import ApiReference.Proofs.Json.Record
import ApiReference.Proofs.Snapshot.Timestamp
import ApiReference.Snapshot.Manifest

/-!
Manifests read back from their texts. The numbers in a manifest are of 64 bits, and only those of
such a size are read.
-/

namespace ApiReference

open Json

/-- The numbers of a manifest are of 64 bits. -/
structure Manifest.Fits (m : Manifest) : Prop where
  types : m.provenance.typeCount < countBound
  operations : m.provenance.operationCount < countBound
  sizes : ∀ r ∈ m.files, r.size < countBound

theorem FileRecord.ofJson_toJson {r : FileRecord} (h : r.size < countBound) :
    FileRecord.ofJson (parsed r.toJson) = .ok r := by
  have name : Fills ["filename", "sha256", "size_bytes"] FileRecord.put ["filename"]
      [("filename", .text r.name)] default { (default : FileRecord) with name := r.name } :=
    .member (by decide) rfl
  have digest : Fills ["filename", "sha256", "size_bytes"] FileRecord.put ["sha256"]
      [("sha256", .text r.sha256)] { (default : FileRecord) with name := r.name }
      { (default : FileRecord) with name := r.name, sha256 := r.sha256 } :=
    .member (by decide) rfl
  have size : Fills ["filename", "sha256", "size_bytes"] FileRecord.put ["size_bytes"]
      [("size_bytes", .number r.size)]
      { (default : FileRecord) with name := r.name, sha256 := r.sha256 } r :=
    .member (by decide) (by
      simp only [FileRecord.put, parsed, Parsed.asNumber, if_pos h]
      rfl)
  have all := (name.append digest (by decide)).append size (by decide)
  exact all.asRecord (by simp)

theorem Timestamp.ofJson_text (t : Timestamp) : Timestamp.ofJson (.text (some t.text)) = .ok t := by
  unfold Timestamp.ofJson
  simp only [Parsed.asText, bind, Except.bind, Timestamp.ofText?_text]
  rfl

/-- The names of the members of a manifest. -/
private abbrev memberNames : List String := ["schema_version", "source_url", "tool_version",
  "generated_at", "input_sha256", "type_count", "operation_count", "artifacts"]

private theorem fills_digest (digest : Option String) (v : Nat) (source tool : String)
    (date : Timestamp) :
    Fills memberNames Manifest.put ["input_sha256"]
      (match digest with
        | some digest => [("input_sha256", .text digest)]
        | none => [])
      ⟨v, ⟨source, tool, none, 0, 0⟩, date, []⟩ ⟨v, ⟨source, tool, digest, 0, 0⟩, date, []⟩ := by
  cases digest with
  | none => exact .nothing _ _
  | some digest => exact .member (by decide) rfl

theorem Manifest.ofJson_toJson {m : Manifest} (version : m.version < versionBound) (h : m.Fits) :
    Manifest.ofJson (parsed m.toJson) = .ok m := by
  obtain ⟨v, ⟨source, tool, digest, types, operations⟩, date, files⟩ := m
  have records := asList_parsed fun r hr => FileRecord.ofJson_toJson (h.sizes r hr)
  have readDate := Timestamp.ofJson_text date
  have first : Fills memberNames Manifest.put ["schema_version"] [("schema_version", .number v)]
      default ⟨v, ⟨"", "", none, 0, 0⟩, default, []⟩ :=
    .member (by decide) (by
      simp only [Manifest.put, parsed, Parsed.asNumber, if_pos version]
      rfl)
  have origin : Fills memberNames Manifest.put ["source_url"] [("source_url", .text source)]
      ⟨v, ⟨"", "", none, 0, 0⟩, default, []⟩ ⟨v, ⟨source, "", none, 0, 0⟩, default, []⟩ :=
    .member (by decide) rfl
  have program : Fills memberNames Manifest.put ["tool_version"] [("tool_version", .text tool)]
      ⟨v, ⟨source, "", none, 0, 0⟩, default, []⟩ ⟨v, ⟨source, tool, none, 0, 0⟩, default, []⟩ :=
    .member (by decide) rfl
  have dated : Fills memberNames Manifest.put ["generated_at"] [("generated_at", .text date.text)]
      ⟨v, ⟨source, tool, none, 0, 0⟩, default, []⟩ ⟨v, ⟨source, tool, none, 0, 0⟩, date, []⟩ :=
    .member (by decide) (by
      simp only [Manifest.put, parsed, readDate]
      rfl)
  have input := fills_digest digest v source tool date
  have typeCount : Fills memberNames Manifest.put ["type_count"] [("type_count", .number types)]
      ⟨v, ⟨source, tool, digest, 0, 0⟩, date, []⟩ ⟨v, ⟨source, tool, digest, types, 0⟩, date, []⟩ :=
    .member (by decide) (by
      simp only [Manifest.put, parsed, Parsed.asNumber, if_pos h.types]
      rfl)
  have operationCount : Fills memberNames Manifest.put ["operation_count"]
      [("operation_count", .number operations)] ⟨v, ⟨source, tool, digest, types, 0⟩, date, []⟩
      ⟨v, ⟨source, tool, digest, types, operations⟩, date, []⟩ :=
    .member (by decide) (by
      simp only [Manifest.put, parsed, Parsed.asNumber, if_pos h.operations]
      rfl)
  have artifacts : Fills memberNames Manifest.put ["artifacts"]
      [("artifacts", .list (files.map FileRecord.toJson))]
      ⟨v, ⟨source, tool, digest, types, operations⟩, date, []⟩
      ⟨v, ⟨source, tool, digest, types, operations⟩, date, files⟩ :=
    .member (by decide) (by
      simp only [Manifest.put, records]
      rfl)
  have head := ((first.append origin (by decide)).append program (by decide)).append dated
    (by decide)
  have tail := (typeCount.append operationCount (by decide)).append artifacts (by decide)
  have all := (head.append input (by decide)).append tail (by decide)
  exact all.asRecord (by simp)

/-- A manifest of the current version is read back from its text. -/
theorem Manifest.ofText_text {m : Manifest} (version : m.version = manifestVersion) (h : m.Fits)
    (path : String) : Manifest.ofText path m.text = .ok m := by
  have read : Json.read m.text Manifest.ofJson = .ok m := by
    have whole := read_pretty m.toJson (by simp : ∀ c ∈ "".toList, isSpace c = true)
      Manifest.ofJson
    rw [String.append_empty] at whole
    rw [text, whole, ofJson_toJson (by rw [version]; decide) h]
  unfold ofText
  rw [read]
  simp [version]

end ApiReference
