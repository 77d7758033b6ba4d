import ApiReference.Proofs.Bindings.Legal
import ApiReference.Proofs.Page.Declared

/-!
The names of data types. A data type is named by the title of its section, letter by letter, and
any text without white space around it is the title of one on some page. So what opens a structure
need not be an identifier, and where titles are words that start with a capital it is one unless the
title is the keyword `Self` (`typeNames_are_titles`).
-/

namespace ApiReference.Page

open Html Bindings Identifier

variable {root : Node}

/-! ## Names and titles -/

/-- Whether a section describes a data type: it looks like one and has a table. -/
def Section.describesType (s : Section root) : Bool := s.kind == .dataType && s.table.isSome

/-- A section that can be read adds a data type of its title if it describes one, and no other. -/
theorem name_of_dataType? {s : Section root} {added : Option Entry} (read : s.entry? = .ok added)
    (registry : TypeRegistry) : (s.dataType? registry).map DataType.name =
      if s.describesType then some s.title else none := by
  have adds : s.adds? = added := by
    rw [Section.adds?, read]
    rfl
  have name (t : DataType) : (t.resolve registry).name = t.name := rfl
  rw [Section.dataType?, adds, Section.describesType]
  unfold Section.entry? at read
  cases kind : s.kind with
  | dataType =>
    rw [kind] at read
    dsimp only at read
    cases table : s.table with
    | none =>
      rw [table] at read
      cases read
      rfl
    | some t =>
      rw [table] at read
      obtain ⟨fields, -, made⟩ := of_bind_ok read
      cases made
      rfl
  | operation =>
    rw [kind] at read
    obtain ⟨parameters, -, read⟩ := of_bind_ok read
    obtain ⟨returns, -, made⟩ := of_bind_ok read
    cases made
    rfl

theorem names_described {sections : List (Section root)}
    (read : ∀ s ∈ sections, ∃ added, s.entry? = .ok added) (registry : TypeRegistry) :
    (described registry sections).types.map DataType.name =
      (sections.filter Section.describesType).map Section.title := by
  rw [described, List.map_filterMap, ← List.filterMap_eq_filter, List.map_filterMap]
  refine List.filterMap_congr fun s hs => ?_
  obtain ⟨added, ok⟩ := read s hs
  rw [name_of_dataType? ok, Option.guard]
  split <;> simp_all

/-- A title is a text without white space around it. -/
theorem trimmed_title {l : Layout} {content : Position root} {s : Section root}
    (hs : s ∈ l.sections content) : s.title ≠ "" ∧ Text.trimmed s.title = s.title := by
  obtain ⟨p, -, made⟩ := List.mem_filterMap.mp hs
  obtain ⟨title, nonempty⟩ := Layout.title_of_section? made
  refine ⟨nonempty, ?_⟩
  rw [title, Text.trimmed, Text.trimmed, String.toList_ofList, Text.trim_trim]

/-! ## A page for each title -/

/-- A table of fields, without any. -/
def fieldTable : Node := tableOf [block "tr" [block "th" [words "Field"]]]

/-- A page that describes one data type. -/
def titledPage (title : String) : Node := pageWith [markedHeading title, fieldTable]

section

variable (title : String)

private def titledBody : Position (titledPage title) := ⟨[0, 1], _, rfl⟩

private def titledHeading : Position (titledPage title) := ⟨[0, 1, 0], markedHeading title, rfl⟩

private def titledTable : Position (titledPage title) := ⟨[0, 1, 1], fieldTable, rfl⟩

private def titledSection : Section (titledPage title) :=
  ⟨titledHeading title, title, title.toList.head?.any Text.isLower, "", "",
    some (titledTable title)⟩

private theorem entry_titledSection :
    Section.entry? (titledSection title) = .ok (some (.dataType ⟨title, "", "", []⟩)) := by
  have header : (titledTable title).selectFirst? [.ofTag "th"] =
      some ⟨[0, 1, 1, 0, 0, 0], block "th" [words "Field"], rfl⟩ := rfl
  have reads : Text.equalIgnoringCase
      (Text.trimmed (block "th" [words "Field"]).innerText) "field" = true := by cbv
  have fields : (titledSection title).hasFieldTable = true := by
    have table : (titledSection title).table = some (titledTable title) := rfl
    rw [Section.hasFieldTable, table, Option.bind_some, header]
    exact reads
  have rows : (titledSection title).rows = [] := by
    show rowsOf (titledTable title) = []
    rfl
  have kind : (titledSection title).kind = .dataType := by
    rw [Section.kind, fields, Bool.not_true, Bool.and_false]
    rfl
  exact entry?_of_rows_nil kind rfl rows

theorem catalog_titledPage (nonempty : title ≠ "") (tight : Text.trimmed title = title) :
    catalog {} (titledPage title) = .ok ⟨[⟨title, "", "", []⟩], []⟩ := by
  have sections : plainLayout.sections (titledBody title) = [titledSection title] := by
    have headings : plainLayout.headings (titledBody title) = [titledHeading title] := rfl
    have made : plainLayout.section? (titledHeading title) = some (titledSection title) := by
      have paragraph : plainLayout.block? (titledHeading title) "p" = none := by cbv
      have quote : plainLayout.block? (titledHeading title) "blockquote" = none := by cbv
      have table : plainLayout.block? (titledHeading title) "table" = some (titledTable title) := by
        cbv
      have text : (titledHeading title).node.innerText = title := by
        show Node.textOf [.mk (.element _) [], .mk (.text title) []] = title
        simp [Node.textOf]
      exact Layout.section?_of_table (by rw [text, tight]) (by simpa using nonempty) paragraph quote
        table
    rw [Layout.sections, headings, List.filterMap_cons, made]
    rfl
  have made : catalogOf [titledSection title] = .ok ⟨[⟨title, "", "", []⟩], []⟩ := by
    rw [catalogOf, List.mapM_cons, entry_titledSection]
    rfl
  exact catalog_pageWith sections made

end

/-! ## Legal names -/

/-- The names of data types are the texts without white space around them, one and all. -/
theorem isTypeName_iff {name : String} :
    (∃ settings root c, catalog settings root = .ok c ∧ ∃ t ∈ c.types, t.name = name) ↔
      name ≠ "" ∧ Text.trimmed name = name := by
  constructor
  · rintro ⟨settings, root, c, h, t, ht, rfl⟩
    obtain ⟨l, content, -, -, whole, read⟩ := sections_of_catalog h
    have among : t.name ∈ c.types.map DataType.name := List.mem_map_of_mem ht
    rw [whole, names_described read] at among
    obtain ⟨s, hs, title⟩ := List.mem_map.mp among
    rw [← title]
    exact trimmed_title (List.mem_of_mem_filter hs)
  · rintro ⟨nonempty, tight⟩
    exact ⟨{}, titledPage name, _, catalog_titledPage name nonempty tight, _,
      List.mem_singleton_self _, rfl⟩

/-- A data type is named by the title of its section, whatever that is, and the data model opens its
structure with that name. One that is a capital followed by letters and digits of ASCII is an
identifier just if it is not `Self`; but any text without white space around it is the name of a data
type of some page. -/
theorem typeNames_are_titles (L : Letters) :
    (∀ (settings : LayoutSettings) (root : Node) (c : Catalog), catalog settings root = .ok c →
      ∃ (l : Layout) (content : Position root),
        Layout.ofSettings settings = .ok l ∧ l.contentOf root = .ok content ∧
        c.types.map DataType.name =
          ((l.sections content).filter Section.describesType).map Section.title ∧
        ((∀ t ∈ c.types, LegibleType t) →
          (structuresOf (models c.types)).map Declared.name = c.types.map DataType.name) ∧
        ∀ t ∈ c.types, CapitalWord t.name → (L.IsIdentifier t.name ↔ t.name ≠ "Self")) ∧
    ∀ name : String,
      (∃ settings root c, catalog settings root = .ok c ∧ ∃ t ∈ c.types, t.name = name) ↔
        name ≠ "" ∧ Text.trimmed name = name := by
  refine ⟨fun settings root c h => ?_, fun name => isTypeName_iff⟩
  obtain ⟨l, content, parsed, found, whole, read⟩ := sections_of_catalog h
  refine ⟨l, content, parsed, found, ?_, fun legible => ?_, fun t _ capital => ?_⟩
  · rw [whole]
    exact names_described read _
  · have written : ∀ t ∈ c.types, ∀ w ∈ t.wireTypes, OneLine w.rustMember := fun t ht w hw =>
      (oneLine_of_catalog h w (List.mem_append_left _ (List.mem_flatMap.mpr ⟨t, ht, hw⟩))).1
    rw [structuresOf_models legible written, List.map_map]
    rfl
  · exact isIdentifier_iff_of_capitalWord capital L

theorem legalNames_of_listPage :
    catalog {} listPage = .ok listCatalog ∧
      (∀ t ∈ listCatalog.types, LegibleType t ∧ CapitalWord t.name) ∧
      (structuresOf (models listCatalog.types)).map Declared.name = ["Node"] ∧
      ∀ t ∈ listCatalog.types, Letters.ascii.IsIdentifier t.name := by
  have plain : ∀ t ∈ listCatalog.types, LegibleType t ∧ CapitalWord t.name := by
    intro t ht
    rw [List.mem_singleton.mp ht]
    exact ⟨⟨by decide, by decide, by decide⟩, by decide, by simp⟩
  obtain ⟨l, content, -, -, -, declared, legal⟩ :=
    (typeNames_are_titles .ascii).1 {} listPage listCatalog catalog_listPage
  refine ⟨catalog_listPage, plain, declared fun t ht => (plain t ht).1, fun t ht => ?_⟩
  refine (legal t ht (plain t ht).2).mpr ?_
  rw [List.mem_singleton.mp ht]
  decide

/-- A heading `Self` names a data type, and with it a structure, by a keyword. -/
theorem keyword_of_selfPage :
    catalog {} (titledPage "Self") = .ok ⟨[⟨"Self", "", "", []⟩], []⟩ ∧
      structuresOf (models [⟨"Self", "", "", []⟩]) = [⟨"Self", []⟩] ∧
      ∀ L : Letters, ¬ L.IsIdentifier "Self" := by
  refine ⟨catalog_titledPage "Self" (by decide) (by cbv), ?_, fun L legal => ?_⟩
  · refine structuresOf_models (fun t ht => ?_) fun t ht w hw => ?_
    · rw [List.mem_singleton.mp ht]
      exact ⟨by decide, by simp, by simp⟩
    · rw [List.mem_singleton.mp ht] at hw
      cases hw
  · exact (isIdentifier_iff_of_capitalWord ⟨by decide, by simp⟩ L).mp legal rfl

end ApiReference.Page
