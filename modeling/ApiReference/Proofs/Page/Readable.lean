import ApiReference.Page.Catalog
import ApiReference.Proofs.Catalog.RoundTrip
import ApiReference.Proofs.Outcome
import ApiReference.Proofs.Text.Separator

/-!
Every type that is read off a page can be read back from its notation: words are scalars or names,
alternatives are words and at least two (`Unresolved`), and looking a name up keeps its letters.
-/

namespace ApiReference

/-! ## The types of a page -/

namespace WireType

/-- A type as a page gives it, its names not looked up. -/
abbrev Unresolved : WireType → Prop := Orderly NameLike fun _ => False

theorem Orderly.mono {named named' foreign foreign' : String → Prop} {t : WireType}
    (h : Orderly named foreign t) (ofNamed : ∀ n, named n → named' n)
    (ofForeign : ∀ n, foreign n → foreign' n) : Orderly named' foreign' t := by
  induction h with
  | scalar kind => exact .scalar kind
  | array _ ih => exact ih.array
  | union several _ single ih => exact .union several ih single
  | named name => exact .named (ofNamed _ name)
  | foreign name => exact .foreign (ofForeign _ name)

theorem Orderly.arrays {named foreign : String → Prop} {t : WireType}
    (h : Orderly named foreign t) (depth : Nat) :
    Orderly named foreign (WireType.arrays depth t) := by
  induction depth with
  | zero => exact h
  | succ depth ih => exact ih.array

theorem isUnion_resolve (registry : TypeRegistry) (t : WireType) :
    (t.resolve registry).isUnion = t.isUnion := by
  cases t with
  | named name =>
    rw [resolve]
    split <;> rfl
  | _ => rw [resolve] <;> rfl

/-- Looking the names of a type up divides them into those of data types and all others. -/
theorem Unresolved.resolve {t : WireType} (h : Unresolved t) (registry : TypeRegistry) :
    Orderly (fun n => NameLike n ∧ registry.contains n = true)
      (fun n => NameLike n ∧ registry.contains n = false) (t.resolve registry) := by
  induction h with
  | scalar kind =>
    rw [WireType.resolve]
    exact .scalar kind
  | array _ ih =>
    rw [WireType.resolve]
    exact ih.array
  | union several _ single ih =>
    rw [WireType.resolve]
    refine .union (by simpa using several) (fun m hm => ?_) fun m hm => ?_
    · obtain ⟨k, hk, rfl⟩ := List.mem_map.mp hm
      exact ih k hk
    · obtain ⟨k, hk, rfl⟩ := List.mem_map.mp hm
      rw [isUnion_resolve]
      exact single k hk
  | named name =>
    rw [WireType.resolve]
    split
    · rename_i known
      exact .named ⟨name, known⟩
    · rename_i unknown
      exact .foreign ⟨name, Bool.not_eq_true _ ▸ unknown⟩
  | foreign none => exact none.elim

/-- A type is read back after its names were looked up. -/
theorem Unresolved.readable_resolve {t : WireType} (h : Unresolved t) (registry : TypeRegistry) :
    (t.resolve registry).Readable :=
  ((h.resolve registry).mono (fun _ name => name.1)
    fun _ name => (solid_of_isName name.1).enclosed).readable

/-- A word of a page names a scalar or a data type. -/
theorem unresolved_of_ofPageWord {field : Option String} {cs : List Char} {t : WireType}
    (h : ofPageWord field cs = .ok t) : Unresolved t ∧ t.isUnion = false := by
  have scalar {kind : Scalar} (e : (.ok (.scalar kind) : Except TypeFault WireType) = .ok t) :
      Unresolved t ∧ t.isUnion = false := by
    cases e
    exact ⟨.scalar kind, rfl⟩
  unfold ofPageWord at h
  dsimp only at h
  split at h
  case h_10 => cases h
  case h_11 =>
    split at h
    · rename_i name
      cases h
      exact ⟨.named (by rw [NameLike, String.toList_ofList]; exact name), rfl⟩
    · cases h
  all_goals exact scalar h

theorem unresolved_of_unionOf {field : String} {words : List (List Char)} {t : WireType}
    (several : 2 ≤ words.length) (h : unionOf field words = .ok t) : Unresolved t := by
  unfold unionOf at h
  obtain ⟨members, read, h⟩ := of_bind_ok h
  cases h
  obtain ⟨length, each⟩ := of_mapM_ok read
  refine .union (by omega) (fun m hm => ?_) fun m hm => ?_
  · obtain ⟨word, -, meant⟩ := each m hm
    exact (unresolved_of_ofPageWord meant).1
  · obtain ⟨word, -, meant⟩ := each m hm
    exact (unresolved_of_ofPageWord meant).2

/-- The type that a text with links gives is made of words, whichever way it is read. -/
theorem unresolved_of_ofLinkedText {field text : String} {links : List String} {t : WireType}
    (h : ofLinkedText field text links = .ok t) : Unresolved t := by
  unfold ofLinkedText at h
  dsimp only at h
  split at h
  · obtain ⟨base, read, h⟩ := of_bind_ok h
    cases h
    exact (unresolved_of_unionOf (by simp) read).arrays _
  split at h
  · rename_i occurs
    obtain ⟨base, read, h⟩ := of_bind_ok h
    cases h
    exact (unresolved_of_unionOf (Text.two_le_length_splitOn (by decide) occurs) read).arrays _
  split at h
  all_goals
    obtain ⟨base, read, h⟩ := of_bind_ok h
    cases h
    exact (unresolved_of_ofPageWord read).1.arrays _

end WireType

/-! ## The catalog of a page -/

namespace Page

open Html

variable {root : Node}

theorem unresolved_of_returnType {description : String} {t : WireType}
    (h : returnType description = .ok t) : t.Unresolved := by
  unfold returnType at h
  split at h
  · cases h
  · obtain ⟨base, read, h⟩ := of_bind_ok h
    cases h
    exact (WireType.unresolved_of_ofPageWord (of_mapError_ok read)).1.arrays _

theorem unresolved_of_fieldOfRow {title : String} {row : Nat} {cells : List (Position root)}
    {f : Field} (h : fieldOfRow title row cells = .ok f) : f.type.Unresolved := by
  unfold fieldOfRow at h
  split at h
  · obtain ⟨type, read, h⟩ := of_bind_ok h
    obtain rfl := Except.ok.inj h
    exact WireType.unresolved_of_ofLinkedText (of_mapError_ok read)
  · obtain ⟨type, read, h⟩ := of_bind_ok h
    obtain rfl := Except.ok.inj h
    exact WireType.unresolved_of_ofLinkedText (of_mapError_ok read)
  · cases h

theorem unresolved_of_parameterOfRow {title : String} {row : Nat} {cells : List (Position root)}
    {p : Parameter} (h : parameterOfRow title row cells = .ok p) : p.type.Unresolved := by
  unfold parameterOfRow at h
  split at h
  · obtain ⟨type, read, h⟩ := of_bind_ok h
    obtain rfl := Except.ok.inj h
    exact WireType.unresolved_of_ofLinkedText (of_mapError_ok read)
  · cases h

/-- Each thing that the rows of a table describe is read off one of them. -/
theorem of_readRows_ok {α : Type} {read : Nat → List (Position root) → Except PageFault α} :
    ∀ {rows : List (List (Position root))} {row : Nat} {as : List α},
      readRows read row rows = .ok as → ∀ a ∈ as, ∃ n cells, read n cells = .ok a
  | [], row, as, h => by
    cases h
    simp
  | cells :: rows, row, as, h => by
    rw [readRows] at h
    obtain ⟨b, first, h⟩ := of_bind_ok h
    obtain ⟨rest, later, h⟩ := of_bind_ok h
    cases h
    intro a ha
    rcases List.mem_cons.mp ha with rfl | among
    · exact ⟨row, cells, first⟩
    · exact of_readRows_ok later a among

/-- The types of what a section adds to a catalog are not looked up. -/
theorem unresolved_of_entry {s : Section root} {e : Entry} (h : s.entry? = .ok (some e)) :
    (∀ t, e.dataType? = some t → ∀ w ∈ t.wireTypes, w.Unresolved) ∧
      (∀ o, e.operation? = some o → ∀ w ∈ o.wireTypes, w.Unresolved) := by
  unfold Section.entry? at h
  split at h
  · split at h
    · cases h
    · obtain ⟨fields, read, h⟩ := of_bind_ok h
      cases h
      refine ⟨fun t ht w hw => ?_, fun o ho => by cases ho⟩
      cases ht
      obtain ⟨f, hf, rfl⟩ := List.mem_map.mp hw
      obtain ⟨n, cells, field⟩ := of_readRows_ok read f hf
      exact unresolved_of_fieldOfRow field
  · obtain ⟨parameters, read, h⟩ := of_bind_ok h
    obtain ⟨returns, readReturns, h⟩ := of_bind_ok h
    cases h
    refine ⟨fun t ht => (by cases ht), fun o ho w hw => ?_⟩
    cases ho
    rcases List.mem_append.mp hw with ofParameter | ofReturns
    · obtain ⟨p, hp, rfl⟩ := List.mem_map.mp ofParameter
      obtain ⟨n, cells, parameter⟩ := of_readRows_ok read p hp
      exact unresolved_of_parameterOfRow parameter
    · rw [List.mem_singleton.mp ofReturns]
      exact unresolved_of_returnType readReturns

theorem unresolved_of_catalogOf {sections : List (Section root)} {c : Catalog}
    (h : catalogOf sections = .ok c) : ∀ w ∈ c.wireTypes, w.Unresolved := by
  unfold catalogOf at h
  obtain ⟨entries, read, h⟩ := of_bind_ok h
  cases h
  obtain ⟨-, each⟩ := of_mapM_ok read
  have entry (e : Entry) (he : e ∈ entries.filterMap id) :
      ∃ s : Section root, s.entry? = .ok (some e) := by
    obtain ⟨found, mem, rfl⟩ := List.mem_filterMap.mp he
    obtain ⟨s, -, adds⟩ := each _ mem
    exact ⟨s, adds⟩
  intro w hw
  rcases List.mem_append.mp hw with ofType | ofOperation
  · obtain ⟨t, ht, hw⟩ := List.mem_flatMap.mp ofType
    obtain ⟨e, he, same⟩ := List.mem_filterMap.mp ht
    obtain ⟨s, adds⟩ := entry e he
    exact (unresolved_of_entry adds).1 t same w hw
  · obtain ⟨o, ho, hw⟩ := List.mem_flatMap.mp ofOperation
    obtain ⟨e, he, same⟩ := List.mem_filterMap.mp ho
    obtain ⟨s, adds⟩ := entry e he
    exact (unresolved_of_entry adds).2 o same w hw

end Page

theorem DataType.wireTypes_resolve (registry : TypeRegistry) (t : DataType) :
    (t.resolve registry).wireTypes = t.wireTypes.map (WireType.resolve registry) := by
  simp [DataType.wireTypes, DataType.resolve, Field.resolve, Function.comp_def]

theorem Operation.wireTypes_resolve (registry : TypeRegistry) (o : Operation) :
    (o.resolve registry).wireTypes = o.wireTypes.map (WireType.resolve registry) := by
  simp [Operation.wireTypes, Operation.resolve, Parameter.resolve, Function.comp_def]

/-- Looking the names of a catalog up looks up those in each of its types. -/
theorem Catalog.wireTypes_resolve (registry : TypeRegistry) (c : Catalog) :
    (c.resolve registry).wireTypes = c.wireTypes.map (WireType.resolve registry) := by
  simp only [Catalog.wireTypes, Catalog.resolve, List.map_append, List.flatMap_map,
    List.map_flatMap, DataType.wireTypes_resolve, Operation.wireTypes_resolve]

namespace Page

/-- The catalog of a page is one of unresolved types in which each name was looked up. -/
theorem catalog_resolved {settings : LayoutSettings} {root : Html.Node} {c : Catalog}
    (h : catalog settings root = .ok c) :
    ∃ unresolved : Catalog, c = unresolved.resolved ∧ ∀ w ∈ unresolved.wireTypes, w.Unresolved := by
  unfold catalog at h
  obtain ⟨layout, -, h⟩ := of_bind_ok h
  obtain ⟨content, -, h⟩ := of_bind_ok h
  obtain ⟨unresolved, read, h⟩ := of_bind_ok h
  cases h
  exact ⟨unresolved, rfl, unresolved_of_catalogOf read⟩

/-- The catalog of a page from those of its parts. -/
theorem catalog_of_sections {settings : LayoutSettings} {root : Html.Node} {l : Layout}
    {content : Html.Position root} {sections : List (Section root)} {unresolved : Catalog}
    (layout : Layout.ofSettings settings = .ok l) (body : l.contentOf root = .ok content)
    (found : l.sections content = sections) (made : catalogOf sections = .ok unresolved) :
    catalog settings root = .ok unresolved.resolved := by
  unfold catalog
  rw [layout]
  show (l.contentOf root >>= fun content =>
    catalogOf (l.sections content) >>= fun c => pure c.resolved) = _
  rw [body]
  show (catalogOf (l.sections content) >>= fun c => pure c.resolved) = _
  rw [found, made]
  rfl

/-- The catalog of a page has readable types. -/
theorem catalog_readable {settings : LayoutSettings} {root : Html.Node} {c : Catalog}
    (h : catalog settings root = .ok c) : c.Readable := by
  obtain ⟨unresolved, rfl, types⟩ := catalog_resolved h
  refine Catalog.readable_of_wireTypes fun w hw => ?_
  rw [Catalog.resolved, Catalog.wireTypes_resolve] at hw
  obtain ⟨t, ht, rfl⟩ := List.mem_map.mp hw
  exact (types t ht).readable_resolve _

/-- The dumps of the catalog of a page hold that catalog, and what is made of it anew is what was
made of the page. -/
theorem catalog_ofDumps {settings : LayoutSettings} {root : Html.Node} {c : Catalog}
    (h : catalog settings root = .ok c) (s : OutputSettings) :
    ∃ loaded, Catalog.ofDumps (c.artifacts s).typesDump (c.artifacts s).operationsDump = .ok loaded ∧
      loaded = c ∧ loaded.artifacts s = c.artifacts s :=
  ⟨c, Catalog.ofDumps_dump (catalog_readable h), rfl, rfl⟩

/-! ### Pages put together -/

section

open Html

/-- An element without attributes. -/
def block (name : String) (children : List Node) : Node :=
  .mk (.element ⟨.html, name, []⟩) children

/-- A node of text. -/
def words (text : String) : Node := .mk (.text text) []

/-- An anchor as it marks headings. -/
def anchorMark : Node := .mk (.element ⟨.html, "a", [⟨.plain, "class", "anchor"⟩]⟩) []

/-- A heading with an anchor. -/
def markedHeading (title : String) : Node := block "h4" [anchorMark, words title]

/-- A page with this in its body. -/
def pageWith (content : List Node) : Node :=
  .mk .document [block "html" [block "head" [], block "body" content]]

/-- A row that describes a field of a name and a type, and says nothing else of it. -/
def fieldRow (name type : String) : Node :=
  block "tr" [block "td" [words name], block "td" [words type], block "td" []]

/-- A table with these rows. -/
def tableOf (rows : List Node) : Node := block "table" [block "tbody" rows]

/-- The selectors of the settings that a page is read with if none are given. -/
def plainLayout : Layout where
  heading := ⟨"h4", some "h4", [], []⟩
  anchor := ⟨"a.anchor", some "a", ["anchor"], []⟩
  content := ⟨"body", some "body", [], []⟩

/-- The body of a page that was put together. -/
def bodyOf (content : List Node) : Position (pageWith content) :=
  ⟨[0, 1], block "body" content, rfl⟩

/-- The catalog of such a page from its sections. -/
theorem catalog_pageWith {content : List Node} {sections : List (Section (pageWith content))}
    {unresolved : Catalog} (found : plainLayout.sections (bodyOf content) = sections)
    (made : catalogOf sections = .ok unresolved) :
    catalog {} (pageWith content) = .ok unresolved.resolved := by
  have layout : Layout.ofSettings {} = .ok plainLayout := by cbv
  have first : (Position.top (pageWith content)).selectFirst? [plainLayout.content] =
      some (bodyOf content) := rfl
  have body : plainLayout.contentOf (pageWith content) = .ok (bodyOf content) := by
    rw [Layout.contentOf, first]
  exact catalog_of_sections layout body found made

/-- A row of three cells describes a field by the texts of its cells, if it has no links. -/
theorem fieldOfRow_plain {root : Node} {title wire text : String} {row : Nat}
    {name type description : Position root} {t : WireType} (named : cellText name = wire)
    (links : linkTexts type = []) (written : type.node.innerText = text)
    (read : WireType.ofLinkedText wire text [] = .ok t) (plain : hasEmphasis description = false)
    (silent : cellProse description = "") :
    fieldOfRow title row [name, type, description] = .ok ⟨wire, t, false, ""⟩ := by
  unfold fieldOfRow cellType
  dsimp only
  rw [named, links, written, read, plain, silent]
  rfl

theorem ofPageWord_node (field : String) :
    WireType.ofPageWord (some field) "Node".toList = .ok (.named "Node") := by
  cbv

private theorem ofLinkedText_node (field : String) :
    WireType.ofLinkedText field "Node" [] = .ok (.named "Node") := by
  have tight : Text.trim "Node".toList = "Node".toList := rfl
  have single : WireType.dropArrayOf? "Node".toList = none := rfl
  have noUnion : ¬ Text.occursIn WireType.unionWord "Node".toList = true := by decide
  unfold WireType.ofLinkedText
  rw [tight, WireType.stripArrays_of_none single]
  dsimp only
  rw [if_neg noUnion, ofPageWord_node]
  rfl

/-! ### A page with a data type and an operation -/

/-- A page that describes the data type `Node`, which names itself, and the operation `getMe`, whose
result is of a type the page lacks. -/
def callPage : Node :=
  pageWith [markedHeading "Node", tableOf [fieldRow "next" "Node"],
    markedHeading "getMe", block "p" [words "Returns Foo on success"]]

/-- What that page describes. -/
def callCatalog : Catalog :=
  ⟨[⟨"Node", "", "", [⟨"next", .named "Node", false, ""⟩]⟩],
    [⟨"getMe", "Returns Foo on success", "", [], .foreign "Foo"⟩]⟩

private def callBody : Position callPage := ⟨[0, 1], _, rfl⟩

private def nodeHeading : Position callPage := ⟨[0, 1, 0], _, rfl⟩

private def nodeTable : Position callPage := ⟨[0, 1, 1], _, rfl⟩

private def callHeading : Position callPage := ⟨[0, 1, 2], _, rfl⟩

private def callProse : Position callPage := ⟨[0, 1, 3], _, rfl⟩

private def nodeSection : Section callPage := ⟨nodeHeading, "Node", false, "", "", some nodeTable⟩

private def callSection : Section callPage :=
  ⟨callHeading, "getMe", true, "Returns Foo on success", "", none⟩

private theorem section_nodeHeading : plainLayout.section? nodeHeading = some nodeSection := by
  have title : Text.trimmed nodeHeading.node.innerText = "Node" := by cbv
  have paragraph : plainLayout.block? nodeHeading "p" = none := rfl
  have quote : plainLayout.block? nodeHeading "blockquote" = none := rfl
  have table : plainLayout.block? nodeHeading "table" = some nodeTable := rfl
  unfold Layout.section?
  rw [title, paragraph, quote, table]
  rfl

private theorem section_callHeading : plainLayout.section? callHeading = some callSection := by
  have title : Text.trimmed callHeading.node.innerText = "getMe" := by cbv
  have paragraph : plainLayout.block? callHeading "p" = some callProse := rfl
  have quote : plainLayout.block? callHeading "blockquote" = none := rfl
  have table : plainLayout.block? callHeading "table" = none := rfl
  have text : Text.trimmed (prose callProse.node) = "Returns Foo on success" := by cbv
  unfold Layout.section?
  rw [title, paragraph, quote, table]
  dsimp only [blockProse]
  rw [text]
  rfl

private theorem entry_nodeSection : nodeSection.entry? =
    .ok (some (.dataType ⟨"Node", "", "", [⟨"next", .named "Node", false, ""⟩]⟩)) := by
  let next : List (Position callPage) :=
    [⟨[0, 1, 1, 0, 0, 0], _, rfl⟩, ⟨[0, 1, 1, 0, 0, 1], _, rfl⟩, ⟨[0, 1, 1, 0, 0, 2], _, rfl⟩]
  have kind : nodeSection.kind = .dataType := rfl
  have rows : nodeSection.rows = [next] := rfl
  have field : fieldOfRow "Node" 1 next = .ok ⟨"next", .named "Node", false, ""⟩ :=
    fieldOfRow_plain (by cbv) rfl (by cbv) (ofLinkedText_node "next") rfl (by cbv)
  unfold Section.entry? Section.fields
  rw [kind, rows]
  dsimp only
  rw [readRows, readRows, show nodeSection.title = "Node" from rfl, field]
  rfl

private theorem entry_callSection : callSection.entry? =
    .ok (some (.operation ⟨"getMe", "Returns Foo on success", "", [], .named "Foo"⟩)) := by
  have kind : callSection.kind = .operation := rfl
  have returns : returnType callSection.description = .ok (.named "Foo") := by
    unfold callSection
    cbv
  unfold Section.entry?
  rw [kind]
  dsimp only
  rw [returns]
  rfl

theorem catalog_callPage : catalog {} callPage = .ok callCatalog := by
  have sections : plainLayout.sections callBody = [nodeSection, callSection] := by
    have headings : plainLayout.headings callBody = [nodeHeading, callHeading] := rfl
    rw [Layout.sections, headings, List.filterMap_cons, section_nodeHeading]
    dsimp only
    rw [List.filterMap_cons, section_callHeading]
    rfl
  have unresolved : catalogOf [nodeSection, callSection] =
      .ok ⟨[⟨"Node", "", "", [⟨"next", .named "Node", false, ""⟩]⟩],
        [⟨"getMe", "Returns Foo on success", "", [], .named "Foo"⟩]⟩ := by
    rw [catalogOf, List.mapM_cons, entry_nodeSection, List.mapM_cons, entry_callSection]
    rfl
  refine (catalog_pageWith sections unresolved).trans ?_
  cbv

theorem catalog_ofDumps_callPage :
    catalog {} callPage = .ok callCatalog ∧ ∃ loaded,
      Catalog.ofDumps (callCatalog.artifacts {}).typesDump (callCatalog.artifacts {}).operationsDump
        = .ok loaded ∧
      loaded = callCatalog ∧ loaded.artifacts {} = callCatalog.artifacts {} :=
  ⟨catalog_callPage, catalog_ofDumps catalog_callPage {}⟩

end

end Page

end ApiReference
