import ApiReference.Proofs.Snapshot.Written

/-!
Snapshots generated again from dumps of any make. What is written depends on the texts of the two
dumps alone: the catalog they hold is the one that its own dumps hold, so that it is written again
the same, whatever else lies in the directory of the snapshot.
-/

namespace ApiReference

open Surroundings Batch

namespace Snapshot

variable {w out : Surroundings} {s : OutputSettings} {dir snapshot : Path} {c : Catalog}
  {p : Provenance} {types operations : String}

/-- The dumps in a directory are two texts. -/
structure HasDumps (s : OutputSettings) (types operations : String) (dir : Path) (t : FileTree) :
    Prop where
  types : t.readText (dir.join s.typesDump) = .ok types
  operations : t.readText (dir.join s.operationsDump) = .ok operations

/-- The files made from a catalog lie in a directory. -/
def HasArtifacts (s : OutputSettings) (c : Catalog) (dir : Path) (t : FileTree) : Prop :=
  ∀ f ∈ (c.artifacts s).files s, t.read (dir.join f.1) = .ok f.2.toUTF8

theorem HasArtifacts.hasDumps {t : FileTree} (h : HasArtifacts s c dir t) :
    HasDumps s (c.artifacts s).typesDump (c.artifacts s).operationsDump dir t where
  types := FileTree.readText_file (h (s.typesDump, (c.artifacts s).typesDump) List.mem_cons_self)
  operations := FileTree.readText_file
    (h (s.operationsDump, (c.artifacts s).operationsDump)
      (List.mem_cons_of_mem _ List.mem_cons_self))

/-- A run has put the files made from a catalog into a directory, or failed in that. If it did
not fail, they lie there. -/
structure Puts (s : OutputSettings) (c : Catalog) (dir : Path) (w : Surroundings)
    (r : Except Error RunResult) (out : Surroundings) : Prop where
  published : ∃ p, Published dir s c p w r out
  held : w.files.Regular → w.isArmed = false → PlainNames (fileNames s) →
    (∃ result, r = .ok result) →
      HasArtifacts s c dir out.files ∧ out.files.Regular ∧ out.isArmed = false

/-- Only different names can be put into a directory together. -/
theorem Published.distinct {r : RunResult} (h : Published dir s c p w (.ok r) out)
    (regular : w.files.Regular) (idle : w.isArmed = false) (plain : PlainNames (fileNames s)) :
    (fileNames s).Nodup := by
  obtain ⟨now, w₁, q, w₂, same, refusal, writes, result, -⟩ := h
  have calm : w₁.isArmed = false := by rw [isArmed, refusal]; exact idle
  cases q with
  | error e => cases result
  | ok =>
    rw [← same] at regular
    rcases write_cases regular writes with ⟨⟨e, failed⟩, -⟩ | ⟨w', d, -, -, armed, leads, filling⟩
    · cases failed
    · have calm' : w'.isArmed = false := armed.trans calm
      obtain ⟨-, ⟨-, filled⟩ | ⟨⟨e, failed⟩, -⟩⟩ :=
        fill_spec leads (plainFiles plain c _) (.inr calm') (fun _ _ _ => calm') filling
      · exact filled.distinct
      · cases failed

theorem Published.puts {r : Except Error RunResult} (h : Published dir s c p w r out) :
    Puts s c dir w r out := by
  refine ⟨⟨p, h⟩, fun regular idle plain ok => ?_⟩
  obtain ⟨result, rfl⟩ := ok
  obtain ⟨now, d, rfl, wrote⟩ := h.wrote regular idle plain (h.distinct regular idle plain)
  exact ⟨fun f hf => wrote.read f (List.mem_append_left _ hf), wrote.leads.regular, wrote.idle⟩

/-- What a run makes of a snapshot is made of its dumps. -/
theorem puts_of_hasDumps (accepted : Catalog.ofDumps types operations = .ok c)
    (dumps : HasDumps s types operations snapshot w.files) {version : String}
    {r : Except Error RunResult}
    (run : runIn (regenerate tell snapshot s dir version) w = (r, out)) :
    Puts s c dir w r out := by
  have loaded : w.files.load snapshot s = .ok c := by
    unfold FileTree.load
    rw [dumps.types, dumps.operations]
    exact accepted
  exact (regenerate_published loaded run).puts

/-- A catalog loaded from two texts is what its own dumps hold. From any directory with these texts
or its own as the dumps, a run puts the files made from the catalog, whatever else lies there; and
so does a run from a directory that such a run has written to. -/
theorem regenerate_from_dumps (accepted : Catalog.ofDumps types operations = .ok c) :
    (∀ s, Catalog.ofDumps (c.artifacts s).typesDump (c.artifacts s).operationsDump = .ok c) ∧
    ∀ s snapshot dir version w r out,
      HasDumps s types operations snapshot w.files ∨
        HasDumps s (dumpTypes c.types) (dumpOperations c.operations) snapshot w.files →
      runIn (regenerate tell snapshot s dir version) w = (r, out) →
      Puts s c dir w r out ∧
      (w.files.Regular → w.isArmed = false → PlainNames (fileNames s) →
        (∃ result, r = .ok result) → ∀ dir' version' r' last,
          runIn (regenerate tell dir s dir' version') out = (r', last) →
            Puts s c dir' out r' last) := by
  have again (s : OutputSettings) := Catalog.ofDumps_dump_of_ofDumps accepted s
  refine ⟨again, fun s snapshot dir version w r out dumps run => ?_⟩
  have first : Puts s c dir w r out := by
    rcases dumps with given | own
    · exact puts_of_hasDumps accepted given run
    · exact puts_of_hasDumps (again s) own run
  refine ⟨first, fun regular idle plain ok dir' version' r' last rerun => ?_⟩
  obtain ⟨held, -, -⟩ := first.held regular idle plain ok
  exact puts_of_hasDumps (again s) held.hasDumps rerun

/-- A dump with an unknown member, and with brackets in the name of a foreign type that do not
match. -/
def editedTypes : String :=
  "[\x7b\"fields\": [\x7b\"type\": \" opaque( a))(|b ) |int64\", \"old\": null, \"name\": \"x\"\x7d], " ++
    "\"name\": \"A\"\x7d]"

/-- What that dump holds. -/
def editedCatalog : Catalog :=
  ⟨[⟨"A", "", "", [⟨"x", .union [.foreign " a))(|b ", .scalar .int64], false, ""⟩]⟩], []⟩

private def editedValue : Json.Parsed :=
  .list [.object [(some "fields", .list [.object
    [(some "type", .text (some " opaque( a))(|b ) |int64")), (some "old", .null),
      (some "name", .text (some "x"))]]), (some "name", .text (some "A"))]]

private theorem ofDumps_editedTypes : Catalog.ofDumps editedTypes "[]" = .ok editedCatalog := by
  have parsed : Json.parse editedTypes = (editedValue, true) := by cbv
  have held : Json.Parsed.asList DataType.ofJson editedValue = .ok editedCatalog.types := by cbv
  have types : readTypes editedTypes = .ok editedCatalog.types := by
    rw [readTypes, Json.read, parsed]
    dsimp only
    rw [held]
    rfl
  have operations : readOperations "[]" = .ok [] := by cbv
  rw [Catalog.ofDumps, types, operations]
  rfl

theorem regenerate_from_editedTypes :
    let w := around ⟨[(["out"], .directory), (["out", "types.json"], .file editedTypes.toUTF8),
      (["out", "operations.json"], .file "[]".toUTF8)], []⟩ none
    Catalog.ofDumps editedTypes "[]" = .ok editedCatalog ∧ ∃ first start second last,
      runIn (regenerate tell ⟨["out"]⟩ {} ⟨["out"]⟩ "1") w = (.ok first, start) ∧
      HasArtifacts {} editedCatalog ⟨["out"]⟩ start.files ∧
      runIn (regenerate tell ⟨["out"]⟩ {} ⟨["out"]⟩ "2") start = (.ok second, last) ∧
      HasArtifacts {} editedCatalog ⟨["out"]⟩ last.files := by
  intro w
  have regular : w.files.Regular := FileTree.regular_of_isRegular (by decide)
  have plain : PlainNames (fileNames {}) := by decide
  have distinct : (fileNames {}).Nodup := by decide
  have vacant : Vacant ⟨["out"]⟩ ["out"] (fileNames {}) w.files :=
    vacant_out ⟨regular, rfl, by cbv⟩ (by decide) (by simp [w, around])
  have dumps : HasDumps {} editedTypes "[]" ⟨["out"]⟩ w.files :=
    ⟨FileTree.readText_file (FileTree.read_join vacant.leads (by decide) rfl),
      FileTree.readText_file (FileTree.read_join vacant.leads (by decide) rfl)⟩
  obtain ⟨-, puts⟩ := regenerate_from_dumps ofDumps_editedTypes
  obtain ⟨⟨q, start⟩, run⟩ : ∃ o, runIn (regenerate tell ⟨["out"]⟩ {} ⟨["out"]⟩ "1") w = o :=
    ⟨_, rfl⟩
  obtain ⟨firstPuts, rerun⟩ := puts {} ⟨["out"]⟩ ⟨["out"]⟩ "1" w q start (.inl dumps) run
  obtain ⟨p, published⟩ := firstPuts.published
  obtain ⟨now, rfl, wrote, second, last, again⟩ := published.repeats regular rfl plain distinct
    (Catalog.readable_of_ofDumps ofDumps_editedTypes) vacant "2"
  have secondPuts := rerun regular rfl plain ⟨_, rfl⟩ ⟨["out"]⟩ "2" _ last again
  exact ⟨ofDumps_editedTypes, _, start, second, last, run,
    (firstPuts.held regular rfl plain ⟨_, rfl⟩).1, again,
    (secondPuts.held wrote.leads.regular wrote.idle plain ⟨_, rfl⟩).1⟩

end Snapshot

end ApiReference
