import ApiReference.CommandLine.Run
import ApiReference.Proofs.Snapshot.Chain
import ApiReference.Proofs.Snapshot.Runs
import ApiReference.Proofs.Toml.Document
import ApiReference.Settings.File

/-!
Settings read from files. A table whose documented keys hold values of the right kind is read as the
settings that it gives, with the usual values for all that it leaves out (`ofToml_filled`), and what
is written for settings is read as those settings (`ofText_text`). A file is loaded accordingly.
-/

namespace ApiReference

/-! ## What a table gives -/

namespace Toml

/-- The entries of a value that is a table. -/
def Value.asTable? : Value → Option (List (String × Value))
  | .table es => some es
  | _ => none

variable {α β : Type}

/-- What entries give for a key, as `read` reads it: the last of them counts, and a table has no
key more than once. -/
def given? (read : Value → Option β) (key : String) (es : List (String × Value)) : Option β :=
  es.reverse.findSome? fun e => if e.1 = key then read e.2 else none

@[simp] theorem given?_nil (read : Value → Option β) (key : String) :
    given? read key [] = none := rfl

@[simp] theorem given?_cons (read : Value → Option β) (key name : String) (v : Value)
    (es : List (String × Value)) :
    given? read key ((name, v) :: es) =
      (given? read key es).or (if name = key then read v else none) := by
  rw [given?, List.reverse_cons, List.findSome?_append, List.findSome?_singleton]
  rfl

end Toml

open Toml (given?)

/-- The settings of the source that a table gives, with those of `s` for the rest. -/
def SourceSettings.filled (es : List (String × Toml.Value)) (s : SourceSettings) :
    SourceSettings where
  url := (given? Toml.Value.asText? "url" es).getD s.url
  timeoutSeconds := (given? Toml.Value.asCount? "timeout_secs" es).or s.timeoutSeconds
  userAgent := (given? Toml.Value.asText? "user_agent" es).getD s.userAgent

/-- The settings of the layout that a table gives, with those of `s` for the rest. -/
def LayoutSettings.filled (es : List (String × Toml.Value)) (s : LayoutSettings) :
    LayoutSettings where
  heading := (given? Toml.Value.asText? "heading_selector" es).getD s.heading
  anchor := (given? Toml.Value.asText? "anchor_selector" es).getD s.anchor
  content := (given? Toml.Value.asText? "content_selector" es).getD s.content

/-- The settings of the output that a table gives, with those of `s` for the rest. -/
def OutputSettings.filled (es : List (String × Toml.Value)) (s : OutputSettings) :
    OutputSettings where
  directory := (given? Toml.Value.asText? "dir" es).getD s.directory
  typesDump := (given? Toml.Value.asText? "types_dump" es).getD s.typesDump
  operationsDump := (given? Toml.Value.asText? "operations_dump" es).getD s.operationsDump
  modelsFile := (given? Toml.Value.asText? "models_file" es).getD s.modelsFile
  bindingsFile := (given? Toml.Value.asText? "bindings_file" es).getD s.bindingsFile
  manifestFile := (given? Toml.Value.asText? "manifest_file" es).getD s.manifestFile
  clientType := (given? Toml.Value.asText? "client_type" es).getD s.clientType
  errorType := (given? Toml.Value.asText? "error_type" es).getD s.errorType
  transportPath := (given? Toml.Value.asText? "transport_path" es).getD s.transportPath
  modelsPath := (given? Toml.Value.asText? "models_path" es).getD s.modelsPath

/-- The settings that a document gives, section by section, with those of `s` for the rest. -/
def Settings.filled (es : List (String × Toml.Value)) (s : Settings) : Settings where
  source :=
    ((given? Toml.Value.asTable? "source" es).map (SourceSettings.filled · {})).getD s.source
  layout :=
    ((given? Toml.Value.asTable? "scrape" es).map (LayoutSettings.filled · {})).getD s.layout
  output :=
    ((given? Toml.Value.asTable? "output" es).map (OutputSettings.filled · {})).getD s.output

/-! ## Tables of the right kind -/

/-- The kinds of settings. -/
inductive SettingKind where
  | text
  | count
  deriving DecidableEq

/-- Whether a value is one of a kind. A count fits into 64 bits with a sign, as all integers do. -/
def SettingKind.Fits : SettingKind → Toml.Value → Prop
  | .text, v => ∃ s, v = .text s
  | .count, v => ∃ n : Nat, (n : Int) < Toml.integerBound ∧ v = .integer n

/-- The keys of the section for the source. -/
def sourceKeys : List (String × SettingKind) :=
  [("url", .text), ("timeout_secs", .count), ("user_agent", .text)]

/-- The keys of the section for the layout. -/
def layoutKeys : List (String × SettingKind) :=
  [("heading_selector", .text), ("anchor_selector", .text), ("content_selector", .text)]

/-- The keys of the section for the output. -/
def outputKeys : List (String × SettingKind) :=
  [("dir", .text), ("types_dump", .text), ("operations_dump", .text), ("models_file", .text),
    ("bindings_file", .text), ("manifest_file", .text), ("client_type", .text),
    ("error_type", .text), ("transport_path", .text), ("models_path", .text)]

/-- The sections, each with its keys. -/
def documentedKeys : List (String × List (String × SettingKind)) :=
  [("source", sourceKeys), ("scrape", layoutKeys), ("output", outputKeys)]

/-- Whether a section has values of the right kind for those keys that it has. -/
def IsSection (keys : List (String × SettingKind)) (es : List (String × Toml.Value)) : Prop :=
  ∀ k ∈ keys, ∀ v, (k.1, v) ∈ es → k.2.Fits v

/-- Whether a document has sections of the right kind for those that it has. -/
def IsSettingsTable (es : List (String × Toml.Value)) : Prop :=
  ∀ d ∈ documentedKeys, ∀ v, (d.1, v) ∈ es → ∃ inner, v = .table inner ∧ IsSection d.2 inner

/-! ## Reading tables -/

variable {α : Type}

/-- A group is read entry by entry, which comes to filling it with what the table gives. -/
theorem readGroup_table {names : List String} {put : String → Toml.Value → α → Option α}
    {usual : α} {es : List (String × Toml.Value)} (fill : List (String × Toml.Value) → α → α)
    (nothing : ∀ s, fill [] s = s)
    (cons : ∀ name v es s, fill ((name, v) :: es) s = fill es (fill [(name, v)] s))
    (other : ∀ name v s, name ∉ names → fill [(name, v)] s = s)
    (own : ∀ name v s, name ∈ names → (name, v) ∈ es → put name v s = some (fill [(name, v)] s)) :
    readGroup names put usual (.table es) = some (fill es usual) := by
  rw [readGroup]
  induction es generalizing usual with
  | nil => rw [List.foldlM_nil, nothing]; rfl
  | cons e es ih =>
    obtain ⟨name, v⟩ := e
    have here : (if names.contains name then put name v usual else some usual) =
        some (fill [(name, v)] usual) := by
      by_cases listed : name ∈ names
      · rw [if_pos (List.contains_iff_mem.mpr listed), own name v usual listed List.mem_cons_self]
      · rw [if_neg (fun h => listed (List.contains_iff_mem.mp h)), other name v usual listed]
    have later := @ih (fill [(name, v)] usual) fun n w s listed among =>
      own n w s listed (List.mem_cons_of_mem _ among)
    rw [List.foldlM_cons, cons]
    dsimp only
    rw [here]
    exact later

/-! ## Sections -/

/-- What a section has for one of its keys is a value of the key's kind. -/
theorem IsSection.fits {keys : List (String × SettingKind)} {es : List (String × Toml.Value)}
    (h : IsSection keys es) {key : String} {v : Toml.Value} (among : (key, v) ∈ es)
    (kind : SettingKind) (listed : (key, kind) ∈ keys) : kind.Fits v := h _ listed v among

theorem SourceSettings.ofToml_table {es : List (String × Toml.Value)}
    (h : IsSection sourceKeys es) :
    SourceSettings.ofToml (.table es) = some (SourceSettings.filled es {}) := by
  refine readGroup_table filled ?_ ?_ ?_ ?_
  · intro s
    simp [filled]
  · intro name v es s
    simp [filled, Option.or_assoc, Option.getD_or]
  · intro name v s unlisted
    simp only [List.mem_cons, List.not_mem_nil, or_false, not_or] at unlisted
    simp [filled, unlisted]
  · intro name v s listed among
    simp only [List.mem_cons, List.not_mem_nil, or_false] at listed
    rcases listed with rfl | rfl | rfl
    · obtain ⟨t, rfl⟩ := h.fits among .text (by decide)
      simp [put, filled, Toml.Value.asText?]
    · obtain ⟨n, _, rfl⟩ := h.fits among .count (by decide)
      simp [put, filled, Toml.Value.asCount?]
    · obtain ⟨t, rfl⟩ := h.fits among .text (by decide)
      simp [put, filled, Toml.Value.asText?]

theorem LayoutSettings.ofToml_table {es : List (String × Toml.Value)}
    (h : IsSection layoutKeys es) :
    LayoutSettings.ofToml (.table es) = some (LayoutSettings.filled es {}) := by
  refine readGroup_table filled ?_ ?_ ?_ ?_
  · intro s
    simp [filled]
  · intro name v es s
    simp [filled, Option.getD_or]
  · intro name v s unlisted
    simp only [List.mem_cons, List.not_mem_nil, or_false, not_or] at unlisted
    simp [filled, unlisted]
  · intro name v s listed among
    simp only [List.mem_cons, List.not_mem_nil, or_false] at listed
    rcases listed with rfl | rfl | rfl <;>
      (obtain ⟨t, rfl⟩ := h.fits among .text (by decide)
       simp [put, filled, Toml.Value.asText?])

theorem OutputSettings.ofToml_table {es : List (String × Toml.Value)}
    (h : IsSection outputKeys es) :
    OutputSettings.ofToml (.table es) = some (OutputSettings.filled es {}) := by
  refine readGroup_table filled ?_ ?_ ?_ ?_
  · intro s
    simp [filled]
  · intro name v es s
    simp [filled, Option.getD_or]
  · intro name v s unlisted
    simp only [List.mem_cons, List.not_mem_nil, or_false, not_or] at unlisted
    simp [filled, unlisted]
  · intro name v s listed among
    simp only [List.mem_cons, List.not_mem_nil, or_false] at listed
    rcases listed with rfl | rfl | rfl | rfl | rfl | rfl | rfl | rfl | rfl | rfl <;>
      (obtain ⟨t, rfl⟩ := h.fits among .text (by decide)
       simp [put, filled, Toml.Value.asText?])

/-! ## Documents -/

namespace Settings

/-- A table of the right kind is read as the settings that it gives. -/
theorem ofToml_filled {es : List (String × Toml.Value)} (h : IsSettingsTable es) :
    ofToml es = some (filled es {}) := by
  refine readGroup_table filled ?_ ?_ ?_ ?_
  · intro s
    simp [filled]
  · intro name v es s
    simp [filled, Option.map_or, Option.getD_or]
  · intro name v s unlisted
    simp only [List.mem_cons, List.not_mem_nil, or_false, not_or] at unlisted
    simp [filled, unlisted]
  · intro name v s listed among
    simp only [List.mem_cons, List.not_mem_nil, or_false] at listed
    rcases listed with rfl | rfl | rfl
    · obtain ⟨inner, rfl, fits⟩ := h ("source", sourceKeys) (by decide) v among
      simp [put, filled, Toml.Value.asTable?, SourceSettings.ofToml_table fits]
    · obtain ⟨inner, rfl, fits⟩ := h ("scrape", layoutKeys) (by decide) v among
      simp [put, filled, Toml.Value.asTable?, LayoutSettings.ofToml_table fits]
    · obtain ⟨inner, rfl, fits⟩ := h ("output", outputKeys) (by decide) v among
      simp [put, filled, Toml.Value.asTable?, OutputSettings.ofToml_table fits]

/-- Whether settings can be written as TOML: a limit on the time fits into 64 bits with a sign. -/
def IsWritable (s : Settings) : Prop :=
  ∀ n ∈ s.source.timeoutSeconds, (n : Int) < Toml.integerBound

theorem writable_toToml {s : Settings} (h : s.IsWritable) : Toml.Writable s.toToml := by
  obtain ⟨⟨url, timeout, agent⟩, layout, output⟩ := s
  refine ⟨?_, ?_, ?_, ?_, ?_⟩
  · simp [toToml, Toml.IsBare, Toml.isKeyChar]
  · simp [toToml]
  · cases timeout <;>
    simp only [toToml, List.forall_mem_cons, List.not_mem_nil, false_implies, implies_true,
      List.cons_append, List.nil_append] <;>
    simp [Toml.IsBare, Toml.isKeyChar]
  · cases timeout <;> simp [toToml]
  · cases timeout with
    | none => simp only [toToml, List.forall_mem_cons, List.not_mem_nil, false_implies,
        implies_true, List.cons_append, List.nil_append, Toml.Plain.Fits, and_self]
    | some n =>
      have fits := h n rfl
      simp only [toToml, List.forall_mem_cons, List.not_mem_nil, false_implies, implies_true,
        List.cons_append, List.nil_append, Toml.Plain.Fits, and_self, fits]

/-- What is written for settings is read as those settings. -/
theorem ofToml_toToml (s : Settings) : ofToml (Toml.valuesOf s.toToml) = some s := by
  obtain ⟨⟨url, timeout, agent⟩, layout, output⟩ := s
  cases timeout <;>
  simp [ofToml, readGroup, toToml, Toml.valuesOf, put, SourceSettings.ofToml, LayoutSettings.ofToml,
    OutputSettings.ofToml, SourceSettings.put, LayoutSettings.put, OutputSettings.put,
    Toml.Value.asText?, Toml.Value.asCount?, Toml.Plain.toValue]

/-- Settings are read back from their text, with or without an empty line after it. -/
theorem ofText_text {s : Settings} (h : s.IsWritable) (path : Path) {trailing : String}
    (blank : Toml.skipBlank false trailing.toList = some []) :
    ofText path (s.text ++ trailing) = .ok s := by
  rw [ofText, text, Toml.read_pretty (writable_toToml h) blank, Option.bind_some, ofToml_toToml]

/-- What entries give for a key is what one of them has. -/
theorem mem_of_given? {β : Type} {read : Toml.Value → Option β} {key : String}
    {es : List (String × Toml.Value)} {x : β} (h : given? read key es = some x) :
    ∃ v, (key, v) ∈ es ∧ read v = some x := by
  obtain ⟨⟨name, v⟩, among, found⟩ := List.exists_of_findSome?_eq_some h
  split at found
  · rename_i same
    exact ⟨v, same ▸ List.mem_reverse.mp among, found⟩
  · cases found

theorem isWritable_filled {es : List (String × Toml.Value)} (h : IsSettingsTable es) :
    (filled es {}).IsWritable := by
  intro n limit
  cases given : given? Toml.Value.asTable? "source" es with
  | none => simp [filled, given] at limit
  | some inner =>
    obtain ⟨v, among, read⟩ := mem_of_given? given
    obtain ⟨inner', rfl, fits⟩ := h ("source", sourceKeys) (by decide) v among
    cases read
    have timeout : given? Toml.Value.asCount? "timeout_secs" inner = some n := by
      simpa [filled, given, SourceSettings.filled] using limit
    obtain ⟨w, amongInner, count⟩ := mem_of_given? timeout
    obtain ⟨m, small, rfl⟩ := fits.fits amongInner .count (by decide)
    obtain rfl : m = n := by simpa [Toml.Value.asCount?] using count
    exact small

/-! ## Files -/

open Snapshot CommandLine

theorem runIn_loadFrom {path : Path} {w : Surroundings} {text : String}
    (file : w.files.readText path = .ok text) :
    runIn (loadFrom path) w = (ofText path text, w) := by
  rw [loadFrom, runIn_bind, runIn_readText, file]
  rfl

/-- A file whose text can be read is there. -/
theorem isThere_of_readText {t : FileTree} {path : Path} {text : String}
    (h : t.readText path = .ok text) : (t.find path).toBool = true := by
  cases found : t.find path with
  | error fault =>
    rw [FileTree.readText, FileTree.read, found] at h
    cases h
  | ok entry => rfl

/-- The settings of a user with a settings file are those of the file. -/
theorem runIn_load_file {home : Path} {w : Surroundings} {text : String}
    (file : w.files.readText (fileOf home) = .ok text) :
    runIn (load home) w = (ofText (fileOf home) text, w) := by
  have there : runIn (liftM (Files.isThere (fileOf home) : StateM Surroundings Bool)) w =
      (.ok (w.files.find (fileOf home)).toBool, w) := rfl
  rw [load, runIn_bind, there, isThere_of_readText file]
  simp only [if_true]
  exact runIn_loadFrom file

/-- The settings of a user are shown as they are written. -/
theorem showSettings_run {home : Path} (report : Progress → StateM Surroundings Unit)
    {w : Surroundings} {s : Settings} (loaded : runIn (load home) w = (.ok s, w)) :
    (Command.showSettings.run home report).run.run w = (.ok [s.text], w) := by
  have worked : (work (load home) : ExceptT CommandFault (StateM Surroundings) Settings).run.run w =
      ((runIn (load home) w).1.mapError .failed, (runIn (load home) w).2) := rfl
  rw [loaded] at worked
  rw [Command.run, ExceptT.run_bind, run_bind, worked]
  rfl

/-- A file with settings of the right kind is read as what it gives, with the usual values for the
rest. What is shown for these settings is read as the same settings. -/
theorem loadFrom_fills {text : String} {es : List (String × Toml.Value)}
    (table : Toml.read text = some es) (typed : IsSettingsTable es) :
    (∀ (path : Path) (w : Surroundings), w.files.readText path = .ok text →
      runIn (loadFrom path) w = (.ok (filled es {}), w)) ∧
    (∀ (home : Path) (report : Progress → StateM Surroundings Unit) (w : Surroundings),
      w.files.readText (fileOf home) = .ok text →
        (Command.showSettings.run home report).run.run w = (.ok [(filled es {}).text], w)) ∧
    ∀ (path : Path) (w : Surroundings), (w.files.readText path = .ok (filled es {}).text ∨
        w.files.readText path = .ok ((filled es {}).text ++ "\n")) →
      runIn (loadFrom path) w = (.ok (filled es {}), w) := by
  have read (path : Path) : ofText path text = .ok (filled es {}) := by
    rw [ofText, table, Option.bind_some, ofToml_filled typed]
  have writable := isWritable_filled typed
  refine ⟨fun path w file => ?_, fun home report w file => ?_, fun path w file => ?_⟩
  · rw [runIn_loadFrom file, read]
  · refine showSettings_run report ?_
    rw [runIn_load_file file, read]
  · have text : ofText path (filled es {}).text = .ok (filled es {}) := by
      rw [← String.append_empty (s := (filled es {}).text)]
      exact ofText_text writable path (by decide)
    have line : ofText path ((filled es {}).text ++ "\n") = .ok (filled es {}) :=
      ofText_text writable path (by decide)
    rcases file with file | file
    · rw [runIn_loadFrom file, text]
    · rw [runIn_loadFrom file, line]

/-- A file with some of the keys of one section, one that is not documented, and a section that is
not documented. -/
def partialFile : String := "[source]\ntimeout_secs = 20\nretries = 3\n\n[proxy]\n"

/-- What stands in `partialFile`. -/
def partialTables : List (String × List (String × Toml.Plain)) :=
  [("source", [("timeout_secs", .integer 20), ("retries", .integer 3)]), ("proxy", [])]

theorem read_partialFile : Toml.read partialFile = some (Toml.valuesOf partialTables) := by
  have shown : partialFile = Toml.pretty partialTables ++ "" := by cbv
  have writable : Toml.Writable partialTables := by
    refine ⟨?_, ?_, ?_, ?_, ?_⟩
    · simp [partialTables, Toml.IsBare, Toml.isKeyChar]
    · simp [partialTables]
    · simp only [partialTables, List.forall_mem_cons, List.not_mem_nil, false_implies,
        implies_true]
      simp [Toml.IsBare, Toml.isKeyChar]
    · simp [partialTables]
    · simp only [partialTables, List.forall_mem_cons, List.not_mem_nil, false_implies,
        implies_true, Toml.Plain.Fits]
      simp [Toml.integerBound]
  rw [shown, Toml.read_pretty writable (by decide)]

/-- Files of which one is the settings file of the user whose files are below `h`. -/
def filesWith (content : ByteArray) : FileTree :=
  ⟨[(["h"], .directory), (["h", ".docbind"], .directory),
    (["h", ".docbind", "docbind.toml"], .file content)], []⟩

theorem readText_filesWith (text : String) :
    (filesWith text.toUTF8).readText (fileOf ⟨["h"]⟩) = .ok text := by
  have directory : directoryOf ⟨["h"]⟩ = ⟨["h", ".docbind"]⟩ := by decide
  rw [fileOf, directory]
  refine FileTree.readText_file ?_
  generalize text.toUTF8 = content
  have leads : (filesWith content).LeadsTo ⟨["h", ".docbind"]⟩ ["h", ".docbind"] :=
    ⟨FileTree.regular_of_isRegular rfl, rfl, by cbv⟩
  exact FileTree.read_join leads (by decide) rfl

theorem loadFrom_fills_partialFile :
    let path := fileOf ⟨["h"]⟩
    let files (text : String) := Surroundings.around (filesWith text.toUTF8) none
    let s : Settings := { source := { timeoutSeconds := some 20 } }
    Toml.read partialFile = some (Toml.valuesOf partialTables) ∧
      IsSettingsTable (Toml.valuesOf partialTables) ∧
      runIn (loadFrom path) (files partialFile) = (.ok s, files partialFile) ∧
      (Command.showSettings.run ⟨["h"]⟩ Surroundings.tell).run.run (files partialFile) =
        (.ok [s.text], files partialFile) ∧
      runIn (loadFrom path) (files s.text) = (.ok s, files s.text) := by
  intro path files s
  have typed : IsSettingsTable (Toml.valuesOf partialTables) := by
    simp only [IsSettingsTable, documentedKeys, List.forall_mem_cons, Toml.valuesOf, partialTables]
    simp only [IsSection, sourceKeys, SettingKind.Fits, Toml.Plain.toValue, Toml.integerBound]
    simpa using ⟨20, by decide, rfl⟩
  have whole : filled (Toml.valuesOf partialTables) {} = s := by decide
  have there (text : String) : (files text).files.readText path = .ok text :=
    readText_filesWith text
  obtain ⟨loads, shows, again⟩ := loadFrom_fills read_partialFile typed
  rw [whole] at loads shows again
  exact ⟨read_partialFile, typed, loads path _ (there _), shows _ _ _ (there _),
    again path _ (.inl (there _))⟩

end Settings

end ApiReference
