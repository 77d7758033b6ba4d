import ApiReference.Proofs.Snapshot.Clash
import ApiReference.Proofs.Snapshot.Manifest

/-!
Snapshots generated again and again. A directory that holds a snapshot (`Holds`) gives back the
catalog that the snapshot was made from and says where that came from, so a run that reads it
writes the same files, and spares those in all other directories. Only a path so long that the
manifest cannot be read by it loses where the snapshot came from.
-/

namespace ApiReference

open Surroundings Batch

/-! ## Reading a directory -/

namespace FileTree

variable {t : FileTree} {dir : Path} {d : Place}

theorem readText_file {path : Path} {text : String} (h : t.read path = .ok text.toUTF8) :
    t.readText path = .ok text := by
  have decoded : String.fromUTF8? text.toUTF8 = some text := by
    simp only [String.fromUTF8?, String.toUTF8_eq_toByteArray, dif_pos text.isValidUTF8]
    rfl
  rw [readText, h]
  simp only [decoded]

/-- A path under which something was read is not out of reach. -/
theorem faultless_of_read {path : Path} {content : ByteArray} (h : t.read path = .ok content) :
    pathFault? path = none := by
  cases hf : pathFault? path with
  | none => rfl
  | some fault =>
    rw [read, find, locate, hf] at h
    cases h

theorem faultless_of_readText {path : Path} {text : String} (h : t.readText path = .ok text) :
    pathFault? path = none := by
  unfold readText at h
  cases held : t.read path with
  | error fault =>
    rw [held] at h
    cases h
  | ok content => exact faultless_of_read held

end FileTree

/-- A name that can be used in one directory can be used in others that are not out of reach. -/
theorem Path.IsUsable.elsewhere {dir other : Path} {name : String} (h : dir.IsUsable name)
    (faultless : FileTree.pathFault? (other.join name) = none) : other.IsUsable name :=
  ⟨h.fileName, h.notStill, h.notUp, h.short, faultless⟩

/-- Two manifests say that the same files were made from the same page. -/
structure Manifest.Agrees (m k : Manifest) : Prop where
  source : m.provenance.source = k.provenance.source
  inputSha256 : m.provenance.inputSha256 = k.provenance.inputSha256
  typeCount : m.provenance.typeCount = k.provenance.typeCount
  operationCount : m.provenance.operationCount = k.provenance.operationCount
  files : m.files = k.files

theorem Manifest.Agrees.refl (m : Manifest) : m.Agrees m := ⟨rfl, rfl, rfl, rfl, rfl⟩

theorem Manifest.Agrees.fits {m k : Manifest} (h : m.Agrees k) (fits : k.Fits) : m.Fits := by
  refine ⟨?_, ?_, ?_⟩
  · rw [h.typeCount]
    exact fits.types
  · rw [h.operationCount]
    exact fits.operations
  · rw [h.files]
    exact fits.sizes

namespace Snapshot

variable {w out : Surroundings} {s : OutputSettings} {dir : Path} {d : Place} {c : Catalog}
  {m : Manifest} {p : Provenance} {r : RunResult}

/-! ## Directories that hold a snapshot -/

/-- A directory holds the files made from a catalog, and a manifest that agrees with `m`. -/
structure Holds (s : OutputSettings) (c : Catalog) (m : Manifest) (dir : Path) (d : Place)
    (t : FileTree) : Prop where
  leads : t.LeadsTo dir d
  ready : ∀ n ∈ fileNames s, Ready dir n
  files : ∀ f ∈ (c.artifacts s).files s, t.under d f.1 = some (.file f.2.toUTF8)
  manifest : ∃ k : Manifest, k.version = manifestVersion ∧ k.Agrees m ∧
    t.under d s.manifestFile = some (.file k.text.toUTF8)

/-- A path is one to the directory of a snapshot: the path that the snapshot was written to, or
another one under which its manifest is not out of reach. -/
def Rereads (t : FileTree) (s : OutputSettings) (snapshot dir : Path) : Prop :=
  snapshot = dir ∨ (∃ d, t.LeadsTo snapshot d ∧ t.LeadsTo dir d) ∧
    FileTree.pathFault? (snapshot.join s.manifestFile) = none

theorem mem_fileNames {f : String × String} (h : f ∈ (c.artifacts s).files s) :
    f.1 ∈ fileNames s := by
  have listed : f.1 ∈ names ((c.artifacts s).files s) := mem_names h
  exact List.mem_append_left [s.manifestFile] listed

theorem Rereads.leads {t : FileTree} {snapshot : Path} (h : Rereads t s snapshot dir)
    (k : t.LeadsTo dir d) : t.LeadsTo snapshot d := by
  rcases h with rfl | ⟨⟨d', here, there⟩, -⟩
  · exact k
  · rw [k.unique there]
    exact here

theorem Rereads.usable {t : FileTree} {snapshot : Path} (h : Rereads t s snapshot dir)
    (ready : Ready dir s.manifestFile) : snapshot.IsUsable s.manifestFile := by
  rcases h with rfl | ⟨-, faultless⟩
  · exact ready.target
  · exact ready.target.elsewhere faultless

/-- A path to a directory that holds a snapshot reads what is in there, by names it can use. -/
theorem Holds.readText {t : FileTree} (h : Holds s c m dir d t) {snapshot : Path}
    (leads : t.LeadsTo snapshot d) {f : String × String} (hf : f ∈ (c.artifacts s).files s)
    (usable : snapshot.IsUsable f.1) : t.readText (snapshot.join f.1) = .ok f.2 :=
  FileTree.readText_file (FileTree.read_join leads usable (h.files f hf))

/-- What is loaded from a directory that holds a snapshot is the catalog of that. -/
theorem Holds.loaded {t : FileTree} (h : Holds s c m dir d t) (readable : c.Readable)
    {snapshot : Path} (reads : Rereads t s snapshot dir) {loaded : Catalog}
    (load : t.load snapshot s = .ok loaded) : loaded = c := by
  have leads := reads.leads h.leads
  have text (n content : String) (hf : (n, content) ∈ (c.artifacts s).files s) {found : String}
      (read : t.readText (snapshot.join n) = .ok found) : found = content := by
    have usable := (h.ready n (mem_fileNames hf)).target.elsewhere
      (FileTree.faultless_of_readText read)
    rw [h.readText leads hf usable] at read
    exact (Except.ok.inj read).symm
  unfold FileTree.load at load
  obtain ⟨types, readTypes, load⟩ := of_bind_ok load
  obtain ⟨operations, readOperations, load⟩ := of_bind_ok load
  have sameTypes := text s.typesDump (dumpTypes c.types) List.mem_cons_self readTypes
  have sameOperations := text s.operationsDump (dumpOperations c.operations)
    (List.mem_cons_of_mem _ List.mem_cons_self) readOperations
  rw [sameTypes, sameOperations, Catalog.ofDumps_dump readable] at load
  exact (Except.ok.inj load).symm

/-- A path by which the dumps can be read loads that catalog. -/
theorem Holds.load_at {t : FileTree} (h : Holds s c m dir d t) (readable : c.Readable)
    {snapshot : Path} (leads : t.LeadsTo snapshot d) (types : snapshot.IsUsable s.typesDump)
    (operations : snapshot.IsUsable s.operationsDump) : t.load snapshot s = .ok c := by
  have typesText := h.readText leads (f := (s.typesDump, dumpTypes c.types))
    List.mem_cons_self types
  have operationsText := h.readText leads (f := (s.operationsDump, dumpOperations c.operations))
    (List.mem_cons_of_mem _ List.mem_cons_self) operations
  unfold FileTree.load
  rw [typesText, operationsText]
  simp only [bind, Except.bind]
  exact Catalog.ofDumps_dump readable

theorem Holds.load {t : FileTree} (h : Holds s c m dir d t) (readable : c.Readable) :
    t.load dir s = .ok c :=
  h.load_at readable h.leads (h.ready s.typesDump (by simp [fileNames])).target
    (h.ready s.operationsDump (by simp [fileNames])).target

/-- What is carried over from such a directory is what its manifest says. -/
theorem Holds.carriedOver {t : FileTree} (h : Holds s c m dir d t) (fits : m.Fits)
    {snapshot : Path} (reads : Rereads t s snapshot dir) (version : String) (found : Catalog) :
    carriedOver t snapshot s version found = ⟨m.provenance.source, version,
      m.provenance.inputSha256, found.types.length, found.operations.length⟩ := by
  obtain ⟨k, current, agrees, held⟩ := h.manifest
  have usable := reads.usable (h.ready s.manifestFile (by simp [fileNames]))
  have text := FileTree.readText_file (FileTree.read_join (reads.leads h.leads) usable held)
  have manifest : t.readManifest (snapshot.join s.manifestFile) = .ok k := by
    have read := Manifest.ofText_text current (agrees.fits fits) (snapshot.join s.manifestFile).text
    rw [FileTree.readManifest, text]
    simp only [bind, Except.bind]
    exact read
  rw [Snapshot.carriedOver, manifest]
  simp only [originOf, agrees.source, agrees.inputSha256]

/-- Where the manifest is out of reach, the snapshot itself is where things come from. -/
theorem carriedOver_of_fault {t : FileTree} {snapshot : Path} {fault : FileFault}
    (far : FileTree.pathFault? (snapshot.join s.manifestFile) = some fault) (version : String)
    (found : Catalog) : carriedOver t snapshot s version found =
      ⟨snapshot.text, version, none, found.types.length, found.operations.length⟩ := by
  have unread : t.readManifest (snapshot.join s.manifestFile) =
      .error (fault.at (snapshot.join s.manifestFile)) := by
    rw [FileTree.readManifest, FileTree.readText, FileTree.read, FileTree.find, FileTree.locate, far]
    rfl
  rw [carriedOver, unread]
  rfl

/-! ## What a run writes -/

/-- A run has written a snapshot, and spared what lies in other directories. -/
structure Wrote (s : OutputSettings) (c : Catalog) (r : RunResult) (d : Place)
    (w out : Surroundings) : Prop where
  leads : out.files.LeadsTo r.directory d
  ready : ∀ n ∈ fileNames s, Ready r.directory n
  content : ∀ f ∈ snapshotFiles s c r.manifest, out.files.under d f.1 = some (.file f.2.toUTF8)
  keeps : w.files.KeepsDirectories out.files
  spared : ∀ d' n content, d' ≠ d → w.files.under d' n = some (.file content) →
    out.files.under d' n = some (.file content)
  idle : out.isArmed = false
  temp : ∀ n ∈ fileNames s, out.files.under d (tempName n) = none
  /-- No directory is made in the one written to. -/
  inside : ∀ n, out.files.under d n = some .directory →
    (w.files.makeDirectories r.directory).2.under d n = some .directory

/-- A run that succeeds has written what it was to publish. -/
theorem Published.wrote (h : Published dir s c p w (.ok r) out) (regular : w.files.Regular)
    (idle : w.isArmed = false) (plain : PlainNames (fileNames s)) (distinct : (fileNames s).Nodup) :
    ∃ now d, r = ⟨dir, manifestOf s c p now⟩ ∧ Wrote s c r d w out := by
  obtain ⟨now, w₁, q, w₂, same, refusal, writes, result, files, armed⟩ := h
  have calm : w₁.isArmed = false := by rw [isArmed, refusal]; exact idle
  cases q with
  | error e => cases result
  | ok =>
    cases result
    rw [← same] at regular
    rcases write_cases regular writes with ⟨⟨e, failed⟩, -⟩ | ⟨w', d, -, made, armed', leads, filling⟩
    · cases failed
    · have calm' : w'.isArmed = false := armed'.trans calm
      obtain ⟨touch, outcome⟩ := fill_spec leads (plainFiles plain c _) (.inl distinct)
        (fun _ _ _ => calm') filling
      rcases outcome with ⟨-, filled⟩ | ⟨⟨e, failed⟩, -⟩
      · have grown := FileTree.grown_makeDirectories regular dir
        rw [← made, same] at grown
        refine ⟨now, d, rfl, files ▸ touch.leads, filled.ready, files ▸ filled.content, ?_, ?_, ?_,
          files ▸ filled.temp, ?_⟩
        · rw [files]
          exact grown.kept.trans touch.keeps
        · intro d' n content other held
          have staged : w'.files.under d' n = some (.file content) := by
            rcases grown.new (d' ++ [n]) with unchanged | ⟨empty, -⟩
            · exact unchanged.trans held
            · rw [FileTree.under, empty] at held
              cases held
          rw [files, ← staged]
          refine touch.same _ fun x _ equal => other ?_
          exact (List.append_inj_left' equal rfl)
        · rw [armed]
          exact touch.idle calm'
        · intro n there
          rw [files] at there
          rw [← same, ← made]
          exact touch.under_directory.mp there
      · cases failed

/-- The numbers in a manifest can be told if those of its files can. -/
theorem fits_manifestOf {now : Timestamp} (types : p.typeCount < countBound)
    (operations : p.operationCount < countBound)
    (sizes : ∀ f ∈ (c.artifacts s).files s, f.2.utf8ByteSize < countBound) :
    (manifestOf s c p now).Fits := by
  refine ⟨types, operations, fun r hr => ?_⟩
  obtain ⟨f, hf, rfl⟩ := List.mem_map.mp hr
  exact sizes f hf

theorem Wrote.holds (h : Wrote s c r d w out) (version : r.manifest.version = manifestVersion)
    (agrees : r.manifest.Agrees m) : Holds s c m r.directory d out.files := by
  refine ⟨h.leads, h.ready, fun f hf => ?_, r.manifest, version, agrees, ?_⟩
  · exact h.content f (List.mem_append_left _ hf)
  · exact h.content (s.manifestFile, r.manifest.text) (by simp [snapshotFiles])

/-- A directory that held the same snapshot before still does. -/
theorem Wrote.keeps_holding (h : Wrote s c r d w out)
    (version : r.manifest.version = manifestVersion) (agrees : r.manifest.Agrees m) {d' : Place}
    (before : Holds s c m dir d' w.files) : Holds s c m dir d' out.files := by
  have leads := before.leads.kept h.keeps h.leads.regular
  by_cases here : d' = d
  · subst here
    obtain ⟨-, -, files, manifest⟩ := h.holds version agrees
    exact ⟨leads, before.ready, files, manifest⟩
  · refine ⟨leads, before.ready, fun f hf => ?_, ?_⟩
    · exact h.spared d' f.1 _ here (before.files f hf)
    · obtain ⟨k, current, same, held⟩ := before.manifest
      exact ⟨k, current, same, h.spared d' s.manifestFile _ here held⟩

/-- Nothing that a run leaves is in the way of the next one into the same directory. -/
theorem Wrote.unhindered (h : Wrote s c r d w out)
    (faultless : FileTree.pathFault? r.directory = none)
    (free : ∀ n ∈ fileNames s, out.files.under d (backupName n) ≠ some .directory) :
    Unhindered r.directory (fileNames s) out.files := by
  have there := h.leads.isDirectory faultless
  have made := FileTree.makeDirectories_of_isDirectory h.leads.regular.noLinks there
  refine ⟨by rw [made], ?_, ?_⟩
  · rw [made]
    intro d' leads
    obtain rfl := leads.unique h.leads
    refine ⟨fun n hn => (h.ready n hn).temp, fun n hn => ?_, fun n hn => ?_⟩
    · rw [h.temp n hn]
      nofun
    · have listed : n ∈ names (snapshotFiles s c r.manifest) := hn
      obtain ⟨f, hf, rfl⟩ := List.mem_map.mp listed
      have usable := (h.ready f.1 hn).target
      refine ⟨usable.notStill, usable.notUp, ?_⟩
      rw [h.content f hf]
      nofun
  · rw [made]
    intro d' leads
    obtain rfl := leads.unique h.leads
    exact free

/-- A snapshot can be generated again right after it was written, by any path to it under which
the dumps can be read. -/
theorem Wrote.regenerates (h : Wrote s c r d w out) (plain : PlainNames (fileNames s))
    (distinct : (fileNames s).Nodup) (readable : c.Readable)
    (version : r.manifest.version = manifestVersion) {snapshot : Path}
    (leads : out.files.LeadsTo snapshot d) (types : snapshot.IsUsable s.typesDump)
    (operations : snapshot.IsUsable s.operationsDump)
    (unhindered : Unhindered dir (fileNames s) out.files) (tool : String) :
    ∃ now last, runIn (regenerate tell snapshot s dir tool) out =
      (.ok ⟨dir, manifestOf s c (carriedOver out.files snapshot s tool c) now⟩, last) := by
  obtain ⟨⟨q, last⟩, run⟩ : ∃ o, runIn (regenerate tell snapshot s dir tool) out = o := ⟨_, rfl⟩
  have loaded := (h.holds version (.refl _)).load_at readable leads types operations
  have published := regenerate_published loaded run
  obtain ⟨again, rfl⟩ := published.succeeds h.leads.regular h.idle plain distinct unhindered
  obtain ⟨now, -, rfl, -⟩ := published.wrote h.leads.regular h.idle plain distinct
  exact ⟨now, last, run⟩

theorem Wrote.regenerates_in_place (h : Wrote s c r d w out) (plain : PlainNames (fileNames s))
    (distinct : (fileNames s).Nodup) (readable : c.Readable)
    (version : r.manifest.version = manifestVersion)
    (unhindered : Unhindered r.directory (fileNames s) out.files) (tool : String) :
    ∃ again last, runIn (regenerate tell r.directory s r.directory tool) out = (.ok again, last) := by
  obtain ⟨now, last, run⟩ := h.regenerates plain distinct readable version h.leads
    (h.ready s.typesDump (by simp [fileNames])).target
    (h.ready s.operationsDump (by simp [fileNames])).target unhindered tool
  exact ⟨_, last, run⟩

/-! ## Runs that nothing is in the way of -/

/-- A directory that is there, with no directories in it that go by the names of a batch. -/
structure Vacant (dir : Path) (d : Place) (names : List String) (t : FileTree) : Prop where
  leads : t.LeadsTo dir d
  faultless : FileTree.pathFault? dir = none
  usable : ∀ n ∈ names, dir.IsUsable (tempName n)
  moves : ∀ n ∈ names, n ≠ "." ∧ n ≠ ".."
  leaves : ∀ n ∈ names, ∀ x ∈ namesOf n, t.under d x ≠ some .directory

theorem Vacant.made {t : FileTree} {d : Place} {names : List String} (h : Vacant dir d names t) :
    t.makeDirectories dir = (.ok (), t) :=
  FileTree.makeDirectories_of_isDirectory h.leads.regular.noLinks
    (h.leads.isDirectory h.faultless)

theorem Vacant.unhindered {t : FileTree} {d : Place} {names : List String}
    (h : Vacant dir d names t) : Unhindered dir names t := by
  refine ⟨by rw [h.made], fun d' leads => ?_, fun d' leads n hn => ?_⟩
  · rw [h.made] at leads ⊢
    obtain rfl := leads.unique h.leads
    exact ⟨h.usable, fun n hn => h.leaves n hn _ (by simp [namesOf]),
      fun n hn => ⟨(h.moves n hn).1, (h.moves n hn).2, h.leaves n hn _ (by simp [namesOf])⟩⟩
  · rw [h.made] at leads ⊢
    obtain rfl := leads.unique h.leads
    exact h.leaves n hn _ (by simp [namesOf])

/-- A directory `out` is vacant if all directories are outside of it. -/
theorem vacant_out {t : FileTree} {names : List String} (leads : t.LeadsTo ⟨["out"]⟩ ["out"])
    (usable : ∀ n ∈ names, Path.IsUsable ⟨["out"]⟩ (tempName n) ∧ n ≠ "." ∧ n ≠ "..")
    (outside : ∀ place, (place, .directory) ∈ t.entries → place.length ≤ 1) :
    Vacant ⟨["out"]⟩ ["out"] names t := by
  refine ⟨leads, by decide, fun n hn => (usable n hn).1, fun n hn => (usable n hn).2,
    fun n _ x _ there => ?_⟩
  have deep := outside _ (FileTree.mem_entries (by simp) there)
  simp at deep

/-- A run into such a directory succeeds, and leaves nothing in the way of another one. -/
theorem Published.leaves {q : Except Error RunResult} {d : Place}
    (h : Published dir s c p w q out) (regular : w.files.Regular) (idle : w.isArmed = false)
    (plain : PlainNames (fileNames s)) (distinct : (fileNames s).Nodup)
    (vacant : Vacant dir d (fileNames s) w.files) :
    ∃ now, q = .ok ⟨dir, manifestOf s c p now⟩ ∧
      Wrote s c ⟨dir, manifestOf s c p now⟩ d w out ∧ Unhindered dir (fileNames s) out.files := by
  obtain ⟨result, rfl⟩ := h.succeeds regular idle plain distinct vacant.unhindered
  obtain ⟨now, d', rfl, wrote⟩ := h.wrote regular idle plain distinct
  obtain rfl := wrote.leads.unique (vacant.leads.kept wrote.keeps wrote.leads.regular)
  have free : ∀ n ∈ fileNames s, out.files.under d' (backupName n) ≠ some .directory := by
    intro n hn there
    have before := wrote.inside _ there
    rw [vacant.made] at before
    exact vacant.leaves n hn _ (by simp [namesOf]) before
  exact ⟨now, rfl, wrote, wrote.unhindered vacant.faultless free⟩

/-- A run into such a directory can be followed by another one in place. -/
theorem Published.repeats {q : Except Error RunResult} {d : Place}
    (h : Published dir s c p w q out) (regular : w.files.Regular) (idle : w.isArmed = false)
    (plain : PlainNames (fileNames s)) (distinct : (fileNames s).Nodup) (readable : c.Readable)
    (vacant : Vacant dir d (fileNames s) w.files) (version : String) :
    ∃ now, q = .ok ⟨dir, manifestOf s c p now⟩ ∧
      Wrote s c ⟨dir, manifestOf s c p now⟩ d w out ∧
      ∃ again last, runIn (regenerate tell dir s dir version) out = (.ok again, last) := by
  obtain ⟨now, rfl, wrote, unhindered⟩ := h.leaves regular idle plain distinct vacant
  exact ⟨now, rfl, wrote, wrote.regenerates_in_place plain distinct readable rfl unhindered version⟩

/-! ## Runs one after the other -/

/-- Runs of `regenerate` one after the other, which began after a snapshot was written in `start`.
Each reads a snapshot written before, the first one or that of an earlier run, and writes to any
directory. The list has what was written, the latest first. -/
inductive Chain (s : OutputSettings) (first : RunResult) (start : Surroundings) :
    List RunResult → Surroundings → Prop where
  | start : Chain s first start [first] start
  | again {results : List RunResult} {w out : Surroundings} {earlier r : RunResult}
      {snapshot dir : Path} {version : String} :
    Chain s first start results w → earlier ∈ results →
      Rereads w.files s snapshot earlier.directory →
      runIn (regenerate tell snapshot s dir version) w = (.ok r, out) →
      Chain s first start (r :: results) out

/-- All that was written holds one snapshot. -/
structure AllHold (s : OutputSettings) (c : Catalog) (m : Manifest) (results : List RunResult)
    (w : Surroundings) : Prop where
  regular : w.files.Regular
  idle : w.isArmed = false
  agrees : ∀ r ∈ results, r.manifest.Agrees m
  holds : ∀ r ∈ results, ∃ d, Holds s c m r.directory d w.files

/-- One more run from what was written leaves all that was written as it is. -/
theorem AllHold.regenerate {results : List RunResult} (h : AllHold s c m results w)
    (plain : PlainNames (fileNames s)) (distinct : (fileNames s).Nodup) (readable : c.Readable)
    (fits : m.Fits) (made : ∃ p now, m = manifestOf s c p now ∧
      p.typeCount = c.types.length ∧ p.operationCount = c.operations.length)
    {earlier : RunResult} (mem : earlier ∈ results) {snapshot : Path}
    (reads : Rereads w.files s snapshot earlier.directory) {version : String}
    (run : runIn (Snapshot.regenerate tell snapshot s dir version) w = (.ok r, out)) :
    AllHold s c m (r :: results) out := by
  obtain ⟨d, holds⟩ := h.holds earlier mem
  rcases regenerate_cases run with ⟨⟨e, failed⟩, -⟩ | ⟨loaded, load, published⟩
  · cases failed
  · obtain rfl := holds.loaded readable reads load
    rw [holds.carriedOver fits reads] at published
    obtain ⟨now, d', rfl, wrote⟩ := published.wrote h.regular h.idle plain distinct
    obtain ⟨p, date, rfl, types, operations⟩ := made
    have agrees : (manifestOf s loaded ⟨p.source, version, p.inputSha256, loaded.types.length,
        loaded.operations.length⟩ now).Agrees (manifestOf s loaded p date) :=
      ⟨rfl, rfl, types.symm, operations.symm, rfl⟩
    refine ⟨wrote.leads.regular, wrote.idle, ?_, ?_⟩
    · intro k hk
      rcases List.mem_cons.mp hk with rfl | before
      · exact agrees
      · exact h.agrees k before
    · intro k hk
      rcases List.mem_cons.mp hk with rfl | before
      · exact ⟨d', wrote.holds rfl agrees⟩
      · obtain ⟨e, held⟩ := h.holds k before
        exact ⟨e, wrote.keeps_holding rfl agrees held⟩

/-- All that a chain of runs has written holds the snapshot that it began with. -/
theorem Chain.allHold {first : RunResult} {start : Surroundings} {results : List RunResult}
    (chain : Chain s first start results out) (begun : AllHold s c m [first] start)
    (plain : PlainNames (fileNames s)) (distinct : (fileNames s).Nodup) (readable : c.Readable)
    (fits : m.Fits) (made : ∃ p now, m = manifestOf s c p now ∧
      p.typeCount = c.types.length ∧ p.operationCount = c.operations.length) :
    AllHold s c m results out := by
  induction chain with
  | start => exact begun
  | again _ mem reads run ih => exact ih.regenerate plain distinct readable fits made mem reads run

/-- The names of the files made from a catalog. -/
def artifactNames (s : OutputSettings) : List String :=
  [s.typesDump, s.operationsDump, s.modelsFile, s.bindingsFile]

/-- Directories that hold one snapshot have its files alike. -/
theorem Holds.same {t u : FileTree} {dir' : Path} {d' : Place} (h : Holds s c m dir d t)
    (k : Holds s c m dir' d' u) {n : String} (hn : n ∈ artifactNames s) :
    ∃ content, t.read (dir.join n) = .ok content ∧ u.read (dir'.join n) = .ok content := by
  have listed : n ∈ names ((c.artifacts s).files s) := hn
  obtain ⟨f, hf, rfl⟩ := List.mem_map.mp listed
  have named := mem_fileNames hf
  exact ⟨f.2.toUTF8, FileTree.read_join h.leads (h.ready f.1 named).target (h.files f hf),
    FileTree.read_join k.leads (k.ready f.1 named).target (k.files f hf)⟩

/-- A snapshot generated from a page and then again and again, from what was written before to
anywhere, is the same everywhere, byte for byte, and all manifests agree on what it is. -/
theorem chain_keeps_snapshot {source : PageSource} {f : FetchSettings} {layout : LayoutSettings}
    {version : String} {w start out : Surroundings} {first : RunResult}
    {results : List RunResult} (regular : w.files.Regular) (idle : w.isArmed = false)
    (plain : PlainNames (fileNames s)) (distinct : (fileNames s).Nodup)
    (generated : runIn (generate tell source f layout s dir version) w = (.ok first, start))
    (fits : first.manifest.Fits) (chain : Chain s first start results out) :
    ∀ r ∈ results, (∀ n ∈ artifactNames s, ∃ content,
        start.files.read (first.directory.join n) = .ok content ∧
          out.files.read (r.directory.join n) = .ok content) ∧
      r.manifest.Agrees first.manifest := by
  rcases generate_cases generated with ⟨⟨e, failed⟩, -⟩ | ⟨markup, c, -, catalog, published⟩
  · cases failed
  · have readable : c.Readable := Page.catalog_readable (of_mapError_ok catalog)
    obtain ⟨now, d, rfl, wrote⟩ := published.wrote regular idle plain distinct
    have holds := wrote.holds rfl (.refl _)
    have begun : AllHold s c (manifestOf s c (foundIn source version markup c) now)
        [⟨dir, manifestOf s c (foundIn source version markup c) now⟩] start := by
      refine ⟨wrote.leads.regular, wrote.idle, fun r hr => ?_, fun r hr => ?_⟩
      · rw [List.mem_singleton.mp hr]
        exact .refl _
      · rw [List.mem_singleton.mp hr]
        exact ⟨d, holds⟩
    have all := chain.allHold begun plain distinct readable fits ⟨_, now, rfl, rfl, rfl⟩
    intro r hr
    obtain ⟨d', there⟩ := all.holds r hr
    exact ⟨fun n hn => holds.same there hn, all.agrees r hr⟩

/-! ### A page beside a directory -/

/-- Markup of a data type and an operation. -/
def callMarkup : String :=
  "<h4><a class=anchor></a>Node</h4><table><tr><td>next<td>Node<td></table>" ++
    "<h4><a class=anchor></a>getMe</h4><p>Returns Foo on success"

theorem catalogOfMarkup_call : catalogOfMarkup {} callMarkup = .ok Page.callCatalog := by
  have page : (Html.Document.parse callMarkup).root = Page.callPage := by decide +kernel
  rw [catalogOfMarkup, page, Page.catalog_callPage]
  rfl

theorem readable_callCatalog : Page.callCatalog.Readable :=
  Page.catalog_readable Page.catalog_callPage

/-- That markup in a file, and beside it a directory with nothing in it. -/
def besidePage : FileTree :=
  ⟨[(["out"], .directory), (["in.html"], .file callMarkup.toUTF8)], []⟩

theorem regular_besidePage : besidePage.Regular := FileTree.regular_of_isRegular (by decide)

theorem vacant_besidePage {names : List String}
    (usable : ∀ n ∈ names, Path.IsUsable ⟨["out"]⟩ (tempName n) ∧ n ≠ "." ∧ n ≠ "..") :
    Vacant ⟨["out"]⟩ ["out"] names besidePage :=
  vacant_out ⟨regular_besidePage, rfl, by cbv⟩ usable (by simp [besidePage])

theorem page_besidePage (f : FetchSettings) :
    (around besidePage none).page (.file ⟨["in.html"]⟩) f = .ok callMarkup := by
  have root : besidePage.LeadsTo ⟨[""]⟩ [] := ⟨regular_besidePage, rfl, by cbv⟩
  have beside : (⟨[""]⟩ : Path).join "in.html" = ⟨["in.html"]⟩ := by decide
  exact FileTree.readText_file (beside ▸ FileTree.read_join root (by decide) rfl)

/-- Names for the files that are not the usual ones. -/
def shortNames : OutputSettings :=
  { typesDump := "t", operationsDump := "p", modelsFile := "m", bindingsFile := "b" }

theorem plain_shortNames : PlainNames (fileNames shortNames) := by decide

theorem distinct_shortNames : (fileNames shortNames).Nodup := by decide

theorem fits_callCatalog {now : Timestamp} (types : p.typeCount = 1)
    (operations : p.operationCount = 1) :
    (manifestOf shortNames Page.callCatalog p now).Fits := by
  have one : 1 < countBound := by decide
  exact fits_manifestOf (types ▸ one) (operations ▸ one) (by decide +kernel)

theorem chain_keeps_snapshot_in_place :
    let w := around besidePage none
    let s := shortNames
    ∃ first start second out,
      (w.files.Regular ∧ w.isArmed = false ∧ PlainNames (fileNames s) ∧ (fileNames s).Nodup) ∧
      runIn (generate tell (.file ⟨["in.html"]⟩) default {} s ⟨["out"]⟩ "1") w = (.ok first, start) ∧
      first.manifest.Fits ∧ first.manifest.provenance.typeCount = 1 ∧
      first.manifest.provenance.operationCount = 1 ∧
      Chain s first start [second, first] out ∧
      ∀ r ∈ [second, first], (∀ n ∈ artifactNames s, ∃ content,
          start.files.read (first.directory.join n) = .ok content ∧
            out.files.read (r.directory.join n) = .ok content) ∧
        r.manifest.Agrees first.manifest := by
  intro w s
  obtain ⟨⟨q, start⟩, run⟩ : ∃ o,
    runIn (generate tell (.file ⟨["in.html"]⟩) default {} s ⟨["out"]⟩ "1") w = o := ⟨_, rfl⟩
  have published := generate_published (page_besidePage default) catalogOfMarkup_call run
  obtain ⟨now, rfl, wrote, second, out, again⟩ := published.repeats regular_besidePage rfl
    plain_shortNames distinct_shortNames readable_callCatalog (vacant_besidePage (by decide)) "2"
  let first : RunResult := ⟨⟨["out"]⟩, manifestOf s Page.callCatalog
    (foundIn (.file ⟨["in.html"]⟩) "1" callMarkup Page.callCatalog) now⟩
  have chain : Chain s first start [second, first] out :=
    .again .start List.mem_cons_self (.inl rfl) again
  have fits : first.manifest.Fits := fits_callCatalog rfl rfl
  exact ⟨first, start, second, out,
    ⟨regular_besidePage, rfl, plain_shortNames, distinct_shortNames⟩, run, fits, rfl, rfl, chain,
    chain_keeps_snapshot regular_besidePage rfl plain_shortNames distinct_shortNames run fits chain⟩

/-- A path to the snapshot that is long enough for its manifest to be out of reach, while the dumps
are not, gives the same catalog but loses where that came from. -/
theorem chain_loses_source_out_of_reach :
    let w := around besidePage none
    let s := shortNames
    let far := Path.delayed 2044 ⟨["out"]⟩
    ∃ first start second out,
      (w.files.Regular ∧ w.isArmed = false ∧ PlainNames (fileNames s) ∧ (fileNames s).Nodup) ∧
      runIn (generate tell (.file ⟨["in.html"]⟩) default {} s ⟨["out"]⟩ "1") w = (.ok first, start) ∧
      first.manifest.Fits ∧
      (∃ d, start.files.LeadsTo first.directory d ∧ start.files.LeadsTo far d) ∧
      runIn (regenerate tell far s ⟨["out"]⟩ "2") start = (.ok second, out) ∧
      ¬ second.manifest.Agrees first.manifest := by
  intro w s far
  obtain ⟨⟨q, start⟩, run⟩ : ∃ o,
    runIn (generate tell (.file ⟨["in.html"]⟩) default {} s ⟨["out"]⟩ "1") w = o := ⟨_, rfl⟩
  have published := generate_published (page_besidePage default) catalogOfMarkup_call run
  obtain ⟨now, rfl, wrote, unhindered⟩ := published.leaves regular_besidePage rfl plain_shortNames
    distinct_shortNames (vacant_besidePage (by decide))
  have there : start.files.LeadsTo far ["out"] := wrote.leads.delayed 2044 rfl (by simp) rfl
  -- A path right below takes 4092 bytes before the name.
  have reach (n : String) (whole : '/' ∉ n.toList)
      (faultless : FileTree.pathFault? (Path.join ⟨["out"]⟩ n) = none) :=
    Path.pathFault?_join_delayed 2044 rfl (by simp) whole faultless
  have types : far.IsUsable s.typesDump :=
    ⟨by decide, by decide, by decide, by decide, reach "t" (by decide) (by decide)⟩
  have operations : far.IsUsable s.operationsDump :=
    ⟨by decide, by decide, by decide, by decide, reach "p" (by decide) (by decide)⟩
  have lost : FileTree.pathFault? (far.join s.manifestFile) = some .nameTooLong :=
    reach "manifest.json" (by decide) (by decide)
  obtain ⟨later, out, again⟩ := wrote.regenerates plain_shortNames distinct_shortNames
    readable_callCatalog rfl there types operations unhindered "2"
  rw [carriedOver_of_fault lost] at again
  refine ⟨_, start, _, out, ⟨regular_besidePage, rfl, plain_shortNames, distinct_shortNames⟩, run,
    fits_callCatalog rfl rfl, ⟨_, wrote.leads, there⟩, again, fun agrees => ?_⟩
  cases agrees.inputSha256

end Snapshot

end ApiReference
