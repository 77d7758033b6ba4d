import ApiReference.Proofs.Snapshot.AllOrNothing

/-!
What runs do to the surroundings they take place in. A run fails before it has written anything,
or it writes one batch of five files (`Published`), whose names only depend on the settings.
-/

namespace ApiReference

/-! ## What runs read -/

namespace FileTree

/-- The text of the file at a path. -/
def readText (t : FileTree) (path : Path) : Except Error String :=
  match t.read path with
  | .error fault => .error (fault.at path)
  | .ok content =>
    match String.fromUTF8? content with
    | some text => .ok text
    | none => .error (FileFault.notUtf8.at path)

/-- The catalog of the snapshot in a directory. -/
def load (t : FileTree) (directory : Path) (s : OutputSettings) : Except Error Catalog := do
  let types ← t.readText (directory.join s.typesDump)
  let operations ← t.readText (directory.join s.operationsDump)
  Catalog.ofDumps types operations

/-- The manifest at a path. -/
def readManifest (t : FileTree) (path : Path) : Except Error Manifest := do
  let text ← t.readText path
  Manifest.ofText path.text text

end FileTree

/-- The page that a source gives. -/
def Surroundings.page (w : Surroundings) (source : PageSource) (f : FetchSettings) :
    Except Error String :=
  match source with
  | .file path => w.files.readText path
  | .address url => w.web url f

namespace Snapshot

variable {w out : Surroundings} {s : OutputSettings} {dir : Path}

/-- A computation that may fail, as it runs in some surroundings. -/
def runIn {α : Type} (x : ExceptT Error (StateM Surroundings) α) (w : Surroundings) :
    Except Error α × Surroundings := x.run.run w

theorem runIn_bind {α β : Type} (x : ExceptT Error (StateM Surroundings) α)
    (f : α → ExceptT Error (StateM Surroundings) β) (w : Surroundings) :
    runIn (x >>= f) w = match runIn x w with
      | (.error e, w') => (.error e, w')
      | (.ok a, w') => runIn (f a) w' := by
  rw [runIn, ExceptT.run_bind, run_bind, runIn]
  obtain ⟨q, w'⟩ : Except Error α × Surroundings := x.run.run w
  cases q <;> rfl

theorem readText_run (path : Path) (w : Surroundings) :
    (Files.readText path : StateM Surroundings _).run w = (w.files.readText path, w) := by
  rw [Files.readText, run_bind, FileTree.readText]
  change (match w.files.read path with
    | .error fault => _
    | .ok content => _ : StateM Surroundings _).run w = _
  cases w.files.read path with
  | error fault => rfl
  | ok content =>
    simp only
    cases String.fromUTF8? content <;> rfl

theorem runIn_readText (path : Path) (w : Surroundings) :
    runIn (ExceptT.mk (Files.readText path)) w = (w.files.readText path, w) :=
  readText_run path w

theorem runIn_pure {α : Type} (x : Except Error α) (w : Surroundings) :
    runIn (ExceptT.mk (pure x)) w = (x, w) := rfl

theorem runIn_load (directory : Path) (s : OutputSettings) (w : Surroundings) :
    runIn (load directory s) w = (w.files.load directory s, w) := by
  rw [load, runIn_bind, runIn_readText, FileTree.load]
  cases w.files.readText (directory.join s.typesDump) with
  | error e => rfl
  | ok types =>
    simp only
    rw [runIn_bind, runIn_readText]
    cases w.files.readText (directory.join s.operationsDump) <;> rfl

theorem runIn_readManifest (path : Path) (w : Surroundings) :
    runIn (readManifest path) w = (w.files.readManifest path, w) := by
  rw [readManifest, runIn_bind, runIn_readText, FileTree.readManifest]
  cases w.files.readText path <;> rfl

theorem runIn_readPage (source : PageSource) (f : FetchSettings) (w : Surroundings) :
    runIn (readPage source f) w = (w.page source f, w) := by
  cases source with
  | file path => exact readText_run path w
  | address url => rfl

/-! ## What runs write -/

/-- The names of the files of a snapshot. -/
def fileNames (s : OutputSettings) : List String :=
  [s.typesDump, s.operationsDump, s.modelsFile, s.bindingsFile, s.manifestFile]

/-- The manifest of the files made from a catalog. -/
def manifestOf (s : OutputSettings) (c : Catalog) (p : Provenance) (now : Timestamp) : Manifest :=
  .of p now (((c.artifacts s).files s).map fun f => FileRecord.of f.1 f.2)

/-- The files of a snapshot, its manifest included. -/
def snapshotFiles (s : OutputSettings) (c : Catalog) (m : Manifest) : List (String × String) :=
  (c.artifacts s).files s ++ [(s.manifestFile, m.text)]

theorem names_snapshotFiles (s : OutputSettings) (c : Catalog) (m : Manifest) :
    Batch.names (snapshotFiles s c m) = fileNames s := rfl

/-- A run has come as far as writing the files made from a catalog, and has ended so. -/
def Published (dir : Path) (s : OutputSettings) (c : Catalog) (p : Provenance)
    (w : Surroundings) (r : Except Error RunResult) (out : Surroundings) : Prop :=
  ∃ now w₁ q w₂, w₁.files = w.files ∧ w₁.refusal = w.refusal ∧
    (Batch.write dir (snapshotFiles s c (manifestOf s c p now)) : StateM Surroundings _).run w₁ =
      (q, w₂) ∧
    r = q.map (fun _ => ⟨dir, manifestOf s c p now⟩) ∧ out.files = w₂.files ∧
    out.isArmed = w₂.isArmed

theorem runIn_write (dir : Path) (s : OutputSettings) (c : Catalog) (p : Provenance)
    {w out : Surroundings} {r : Except Error RunResult}
    (run : runIn (write dir s c p) w = (r, out)) : Published dir s c p w r out := by
  obtain ⟨⟨q, w₂⟩, writes⟩ : ∃ o, (Batch.write dir
    (snapshotFiles s c (manifestOf s c p (w.clock w.looks))) : StateM Surroundings _).run
      { w with looks := w.looks + 1 } = o := ⟨_, rfl⟩
  refine ⟨w.clock w.looks, { w with looks := w.looks + 1 }, q, w₂, rfl, rfl, writes, ?_⟩
  have clock : runIn (liftM (Host.now : StateM Surroundings Timestamp)) w =
      (.ok (w.clock w.looks), { w with looks := w.looks + 1 }) := rfl
  have batch : runIn (ExceptT.mk (Batch.write dir
      (snapshotFiles s c (manifestOf s c p (w.clock w.looks))))) { w with looks := w.looks + 1 } =
        (q, w₂) := writes
  simp only [snapshotFiles, manifestOf] at batch
  simp only [write] at run
  rw [runIn_bind, clock] at run
  simp only at run
  rw [runIn_bind, batch] at run
  cases q <;> cases run <;> exact ⟨rfl, rfl, rfl⟩

theorem Published.of_told {c : Catalog} {p : Provenance} {r : Except Error RunResult}
    {told : List Progress} (h : Published dir s c p { w with told := told } r out) :
    Published dir s c p w r out := h

theorem Published.told {c : Catalog} {p : Provenance} {r : Except Error RunResult}
    (h : Published dir s c p w r out) (told : List Progress) :
    Published dir s c p w r { out with told := told } := h

private theorem runIn_tell (p : Progress) (w : Surroundings) :
    runIn (liftM (Surroundings.tell p)) w = (.ok (), { w with told := p :: w.told }) := rfl

private theorem runIn_lift {α : Type} (x : StateM Surroundings α) (w : Surroundings) :
    runIn (liftM x) w = (.ok (x.run w).1, (x.run w).2) := rfl

/-- Where a snapshot generated again says it comes from: what the manifest in the other one says,
or else that one itself. -/
def originOf (snapshot : Path) : Except Error Manifest → String × Option String
  | .ok manifest => (manifest.provenance.source, manifest.provenance.inputSha256)
  | .error _ => (snapshot.text, none)

/-- The provenance of a catalog taken from a snapshot. -/
def carriedOver (t : FileTree) (snapshot : Path) (s : OutputSettings) (version : String)
    (c : Catalog) : Provenance :=
  let origin := originOf snapshot (t.readManifest (snapshot.join s.manifestFile))
  ⟨origin.1, version, origin.2, c.types.length, c.operations.length⟩

/-- The last steps of a run: the files are written, and the user is told of it. -/
private theorem runIn_finish (p : Provenance) (c : Catalog) (types operations : Nat)
    {r : Except Error RunResult}
    (run : runIn (do
      let result ← write dir s c p
      liftM (Surroundings.tell (.done types operations))
      return result) w = (r, out)) : Published dir s c p w r out := by
  rw [runIn_bind] at run
  obtain ⟨⟨q, w'⟩, writes⟩ : ∃ o, runIn (write dir s c p) w = o := ⟨_, rfl⟩
  rw [writes] at run
  have published := runIn_write dir s c p writes
  cases q with
  | error e =>
    cases run
    exact published
  | ok result =>
    cases run
    exact published.told _

/-- The provenance of a catalog taken from a page. -/
def foundIn (source : PageSource) (version markup : String) (c : Catalog) : Provenance :=
  ⟨source.text, version, some (Sha256.digest markup.toUTF8), c.types.length, c.operations.length⟩

theorem page_of_told (source : PageSource) (f : FetchSettings) (told : List Progress) :
    Surroundings.page { w with told := told } source f = w.page source f := by
  cases source <;> rfl

variable {source : PageSource} {f : FetchSettings} {layout : LayoutSettings} {version : String}
  {r : Except Error RunResult}

/-- A run from a page that has a catalog publishes that. -/
theorem generate_published {markup : String} {c : Catalog} (page : w.page source f = .ok markup)
    (catalog : catalogOfMarkup layout markup = .ok c)
    (run : runIn (generate Surroundings.tell source f layout s dir version) w = (r, out)) :
    Published dir s c (foundIn source version markup c) w r out := by
  rw [generate, runIn_bind] at run
  simp only [runIn_tell] at run
  rw [runIn_bind, runIn_readPage, page_of_told, page] at run
  simp only at run
  rw [runIn_bind, runIn_tell] at run
  simp only at run
  rw [runIn_bind, runIn_pure, catalog] at run
  simp only at run
  rw [runIn_bind, runIn_tell] at run
  simp only at run
  rw [runIn_bind, runIn_tell] at run
  exact (runIn_finish _ c _ _ run).of_told

/-- A run from a page fails before it writes, or it publishes the catalog of the page. -/
theorem generate_cases
    (run : runIn (generate Surroundings.tell source f layout s dir version) w = (r, out)) :
    ((∃ e, r = .error e) ∧ out.files = w.files) ∨
      ∃ markup c, w.page source f = .ok markup ∧ catalogOfMarkup layout markup = .ok c ∧
        Published dir s c (foundIn source version markup c) w r out := by
  cases page : w.page source f with
  | error e =>
    rw [generate, runIn_bind] at run
    simp only [runIn_tell] at run
    rw [runIn_bind, runIn_readPage, page_of_told, page] at run
    cases run
    exact .inl ⟨⟨e, rfl⟩, rfl⟩
  | ok markup =>
    cases catalog : catalogOfMarkup layout markup with
    | error e =>
      rw [generate, runIn_bind] at run
      simp only [runIn_tell] at run
      rw [runIn_bind, runIn_readPage, page_of_told, page] at run
      simp only at run
      rw [runIn_bind, runIn_tell] at run
      simp only at run
      rw [runIn_bind, runIn_pure, catalog] at run
      cases run
      exact .inl ⟨⟨e, rfl⟩, rfl⟩
    | ok c => exact .inr ⟨markup, c, rfl, catalog, generate_published page catalog run⟩

/-- A run from a snapshot that has a catalog publishes that. -/
theorem regenerate_published {snapshot : Path} {c : Catalog}
    (loaded : w.files.load snapshot s = .ok c)
    (run : runIn (regenerate Surroundings.tell snapshot s dir version) w = (r, out)) :
    Published dir s c (carriedOver w.files snapshot s version c) w r out := by
  rw [regenerate, runIn_bind] at run
  simp only [runIn_tell] at run
  rw [runIn_bind, runIn_load] at run
  simp only [loaded] at run
  rw [runIn_bind, runIn_lift] at run
  have reads := runIn_readManifest (snapshot.join s.manifestFile)
    { w with told := .loading :: w.told }
  rw [runIn] at reads
  rw [reads] at run
  simp only at run
  rw [runIn_bind, runIn_tell] at run
  simp only at run
  rw [runIn_bind, runIn_tell] at run
  rw [carriedOver]
  cases earlier : w.files.readManifest (snapshot.join s.manifestFile) with
  | ok manifest =>
    simp only [earlier] at run
    exact (runIn_finish _ c _ _ run).of_told
  | error e =>
    simp only [earlier] at run
    exact (runIn_finish _ c _ _ run).of_told

/-- A run from a snapshot fails before it writes, or it publishes the catalog of the snapshot. -/
theorem regenerate_cases {snapshot : Path}
    (run : runIn (regenerate Surroundings.tell snapshot s dir version) w = (r, out)) :
    ((∃ e, r = .error e) ∧ out.files = w.files) ∨
      ∃ c, w.files.load snapshot s = .ok c ∧
        Published dir s c (carriedOver w.files snapshot s version c) w r out := by
  cases loaded : w.files.load snapshot s with
  | error e =>
    rw [regenerate, runIn_bind] at run
    simp only [runIn_tell] at run
    rw [runIn_bind, runIn_load] at run
    simp only [loaded] at run
    cases run
    exact .inl ⟨⟨e, rfl⟩, rfl⟩
  | ok c => exact .inr ⟨c, rfl, regenerate_published loaded run⟩

/-- A run that nothing is in the way of succeeds. -/
theorem Published.succeeds {c : Catalog} {p : Provenance} (h : Published dir s c p w r out)
    (regular : w.files.Regular) (idle : w.isArmed = false)
    (plain : Batch.PlainNames (fileNames s)) (distinct : (fileNames s).Nodup)
    (unhindered : Batch.Unhindered dir (fileNames s) w.files) : ∃ result, r = .ok result := by
  obtain ⟨now, w₁, q, w₂, same, refusal, writes, rfl, -⟩ := h
  have calm : w₁.isArmed = false := by rw [Surroundings.isArmed, refusal]; exact idle
  rw [← same] at regular unhindered
  have ok : q = .ok () := by
    refine Batch.write_succeeds regular calm ?_ ?_ ?_ writes
    · exact plain
    · exact distinct
    · exact unhindered
  rw [ok]
  exact ⟨_, rfl⟩

end Snapshot

end ApiReference
