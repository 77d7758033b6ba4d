import ApiReference.Proofs.Catalog.Loaded
import ApiReference.Proofs.Snapshot.Chain
import ApiReference.Proofs.Snapshot.Sha256

/-!
What a run that succeeds leaves in its directory. The manifest there is the one the run gives back,
its records tell the length and the digest of each file as it lies there, and the dumps hold as
much as the manifest counts.
-/

namespace ApiReference

open Surroundings Batch

namespace Snapshot

variable {w out : Surroundings} {s : OutputSettings} {dir : Path} {c : Catalog} {p : Provenance}
  {r : RunResult}

/-- A run that wrote something, from a page or from a snapshot. -/
inductive Ran (s : OutputSettings) (dir : Path) (w : Surroundings) (r : RunResult)
    (out : Surroundings) : Prop where
  | generated {source : PageSource} {f : FetchSettings} {layout : LayoutSettings}
      {version : String} :
    runIn (generate tell source f layout s dir version) w = (.ok r, out) → Ran s dir w r out
  | regenerated {snapshot : Path} {version : String} :
    runIn (regenerate tell snapshot s dir version) w = (.ok r, out) → Ran s dir w r out

/-- A run publishes a catalog that its dumps give back, and counts what is in it. -/
theorem Ran.published (h : Ran s dir w r out) :
    ∃ c p, c.Readable ∧ p.typeCount = c.types.length ∧ p.operationCount = c.operations.length ∧
      Published dir s c p w (.ok r) out := by
  cases h with
  | generated run =>
    rcases generate_cases run with ⟨⟨e, failed⟩, -⟩ | ⟨markup, c, -, catalog, published⟩
    · cases failed
    · exact ⟨c, _, Page.catalog_readable (of_mapError_ok catalog), rfl, rfl, published⟩
  | regenerated run =>
    rcases regenerate_cases run with ⟨⟨e, failed⟩, -⟩ | ⟨c, load, published⟩
    · cases failed
    · unfold FileTree.load at load
      obtain ⟨types, -, load⟩ := of_bind_ok load
      obtain ⟨operations, -, load⟩ := of_bind_ok load
      exact ⟨c, _, Catalog.readable_of_ofDumps load, rfl, rfl, published⟩

/-- A manifest tells of the files in a directory. -/
structure TellsOf (m : Manifest) (s : OutputSettings) (dir : Path) (t : FileTree) : Prop where
  names : m.files.map FileRecord.name = artifactNames s
  contents : ∀ f ∈ m.files, ∃ content, t.read (dir.join f.name) = .ok content ∧
    Sha256.IsDigest content.toList f.sha256 ∧ f.size = content.size

theorem tellsOf_manifestOf {now : Timestamp} {t : FileTree}
    (held : ∀ f ∈ (c.artifacts s).files s, t.read (dir.join f.1) = .ok f.2.toUTF8) :
    TellsOf (manifestOf s c p now) s dir t := by
  refine ⟨rfl, fun record hr => ?_⟩
  obtain ⟨f, hf, rfl⟩ := List.mem_map.mp hr
  exact ⟨f.2.toUTF8, held f hf, Sha256.isDigest_iff.mpr rfl, rfl⟩

/-- The files made from a catalog are what is read in the directory written to. -/
theorem Wrote.read {d : Place} (h : Wrote s c r d w out) :
    ∀ f ∈ snapshotFiles s c r.manifest,
      out.files.read (r.directory.join f.1) = .ok f.2.toUTF8 := by
  intro f hf
  have listed : f.1 ∈ fileNames s := (names_snapshotFiles s c r.manifest) ▸ mem_names hf
  exact FileTree.read_join h.leads (h.ready f.1 listed).target (h.content f hf)

/-- What lies in a directory is what a run gave back for it: the manifest there is the one of the
result, its records tell of the files there, and the dumps hold as much as it counts. -/
structure Accounts (s : OutputSettings) (dir : Path) (r : RunResult) (out : Surroundings) : Prop where
  directory : r.directory = dir
  manifest : runIn (readManifest (dir.join s.manifestFile)) out = (.ok r.manifest, out)
  files : TellsOf r.manifest s dir out.files
  counts : ∃ c, runIn (load dir s) out = (.ok c, out) ∧
    c.types.length = r.manifest.provenance.typeCount ∧
    c.operations.length = r.manifest.provenance.operationCount

/-- A run that succeeds accounts for what it leaves. -/
theorem ran_accounts (regular : w.files.Regular) (idle : w.isArmed = false)
    (plain : PlainNames (fileNames s)) (distinct : (fileNames s).Nodup)
    (run : Ran s dir w r out) (fits : r.manifest.Fits) : Accounts s dir r out := by
  obtain ⟨c, p, readable, types, operations, published⟩ := run.published
  obtain ⟨now, d, rfl, wrote⟩ := published.wrote regular idle plain distinct
  have bytes : out.files.read (dir.join s.manifestFile)
      = .ok (manifestOf s c p now).text.toUTF8 :=
    wrote.read (s.manifestFile, (manifestOf s c p now).text) (by simp [snapshotFiles])
  have manifest : out.files.readManifest (dir.join s.manifestFile) = .ok (manifestOf s c p now) := by
    have read := Manifest.ofText_text (m := manifestOf s c p now) rfl fits
      (dir.join s.manifestFile).text
    rw [FileTree.readManifest, FileTree.readText_file bytes]
    simp only [bind, Except.bind]
    exact read
  refine ⟨rfl, ?_, tellsOf_manifestOf fun f hf => wrote.read f (List.mem_append_left _ hf), c, ?_,
    types.symm, operations.symm⟩
  · rw [runIn_readManifest, manifest]
  · rw [runIn_load, (wrote.holds rfl (.refl _)).load readable]

/-! ### A page, generated and generated again -/

/-- The files made from that page, with their digests. -/
def callRecords : List FileRecord := [
  ⟨"t", "49b3a4d4ace0cca5cddecf59a4a21e1c102bc4389f63618c2910c2c6113e6d8d", 144⟩,
  ⟨"p", "730081832540771a60d936e395ff440dd6b4a51d19a49a237b49bb24a6bb43f6", 111⟩,
  ⟨"m", "35d7ba7cdc26d46327c0976ac0d9607b15e612a8eb101373a1d6a0ac98386b45", 231⟩,
  ⟨"b", "3b6bae708ae60d7ebe18f6a4cdc485b586eca58ab6f8782141d4c4eb361044e7", 337⟩]

private theorem files_manifestOf (now : Timestamp) :
    (manifestOf shortNames Page.callCatalog p now).files = callRecords := by
  let a := Page.callCatalog.artifacts shortNames
  -- One digest at a time: the kernel holds on to all that it computes for one fact.
  have types : FileRecord.of "t" a.typesDump = callRecords[0] := by
    rw [FileRecord.of, Sha256.digest_eq]
    decide +kernel
  have operations : FileRecord.of "p" a.operationsDump = callRecords[1] := by
    rw [FileRecord.of, Sha256.digest_eq]
    decide +kernel
  have models : FileRecord.of "m" a.models = callRecords[2] := by
    rw [FileRecord.of, Sha256.digest_eq]
    decide +kernel
  have bindings : FileRecord.of "b" a.bindings = callRecords[3] := by
    rw [FileRecord.of, Sha256.digest_eq]
    decide +kernel
  change [FileRecord.of "t" a.typesDump, FileRecord.of "p" a.operationsDump,
    FileRecord.of "m" a.models, FileRecord.of "b" a.bindings] = callRecords
  rw [types, operations, models, bindings]
  rfl

theorem ran_accounts_call :
    ∃ first start second out,
      Ran shortNames ⟨["out"]⟩ (around besidePage none) first start ∧
      Accounts shortNames ⟨["out"]⟩ first start ∧
      first.manifest.provenance.typeCount = 1 ∧
      first.manifest.provenance.operationCount = 1 ∧ first.manifest.files = callRecords ∧
      Ran shortNames ⟨["out"]⟩ start second out ∧ Accounts shortNames ⟨["out"]⟩ second out ∧
      second.manifest.files = callRecords := by
  obtain ⟨⟨q, start⟩, run⟩ : ∃ o, runIn (generate tell (.file ⟨["in.html"]⟩) default {} shortNames
    ⟨["out"]⟩ "1") (around besidePage none) = o := ⟨_, rfl⟩
  have published := generate_published (page_besidePage default) catalogOfMarkup_call run
  obtain ⟨now, rfl, wrote, second, out, again⟩ := published.repeats regular_besidePage rfl
    plain_shortNames distinct_shortNames readable_callCatalog (vacant_besidePage (by decide)) "2"
  have loaded := (wrote.holds rfl (.refl _)).load readable_callCatalog
  obtain ⟨later, d, rfl, -⟩ := (regenerate_published loaded again).wrote wrote.leads.regular
    wrote.idle plain_shortNames distinct_shortNames
  exact ⟨_, start, _, out, .generated run,
    ran_accounts regular_besidePage rfl plain_shortNames distinct_shortNames (.generated run)
      (fits_callCatalog rfl rfl), rfl, rfl, files_manifestOf now, .regenerated again,
    ran_accounts wrote.leads.regular wrote.idle plain_shortNames distinct_shortNames
      (.regenerated again) (fits_callCatalog rfl rfl), files_manifestOf later⟩

end Snapshot

end ApiReference
