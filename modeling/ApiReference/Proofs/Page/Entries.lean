import ApiReference.Proofs.Page.Names

/-!
What the sections of a page add to its catalog. A catalog lists what each of its sections describes,
in their order, and the names are looked up among all of them (`catalogOf_resolve`). So sections in
another order make the same entries in that order (`catalog_of_perm`).
-/

namespace ApiReference

/-! ## Registries of the same names -/

theorem WireType.resolve_congr {r r' : TypeRegistry}
    (same : ∀ name, r.contains name = r'.contains name) :
    (t : WireType) → t.resolve r = t.resolve r'
  | .scalar _ => by rw [resolve, resolve]
  | .array element => by rw [resolve, resolve, resolve_congr same element]
  | .union members => by
    rw [resolve, resolve, List.map_congr_left fun m _ => resolve_congr same m]
  | .named name => by rw [resolve, resolve, same name]
  | .foreign _ => by rw [resolve, resolve]

theorem DataType.resolve_congr {r r' : TypeRegistry}
    (same : ∀ name, r.contains name = r'.contains name) : resolve r = resolve r' := by
  have field : Field.resolve r = Field.resolve r' := by
    funext f
    rw [Field.resolve, Field.resolve, WireType.resolve_congr same]
  funext t
  rw [resolve, resolve, field]

theorem Operation.resolve_congr {r r' : TypeRegistry}
    (same : ∀ name, r.contains name = r'.contains name) : resolve r = resolve r' := by
  have parameter : Parameter.resolve r = Parameter.resolve r' := by
    funext p
    rw [Parameter.resolve, Parameter.resolve, WireType.resolve_congr same]
  funext o
  rw [resolve, resolve, parameter, WireType.resolve_congr same]

theorem Catalog.registry_resolve (registry : TypeRegistry) (c : Catalog) :
    (c.resolve registry).registry = c.registry := by
  rw [Catalog.registry, Catalog.names_resolve, Catalog.registry]

/-! ## What a section adds -/

namespace Page

open Html

variable {root : Node}

/-- What a section adds to a catalog; nothing if it cannot be read. -/
def Section.adds? (s : Section root) : Option Entry := s.entry?.toOption.join

/-- The data type that a section describes, if any, with the names in it looked up. -/
def Section.dataType? (registry : TypeRegistry) (s : Section root) : Option DataType :=
  (s.adds?.bind Entry.dataType?).map (DataType.resolve registry)

/-- The operation that a section describes, if any, with the names in it looked up. -/
def Section.operation? (registry : TypeRegistry) (s : Section root) : Option Operation :=
  (s.adds?.bind Entry.operation?).map (Operation.resolve registry)

/-- What sections describe, in their order, with all names looked up in one registry. -/
def described (registry : TypeRegistry) (sections : List (Section root)) : Catalog :=
  ⟨sections.filterMap (Section.dataType? registry),
    sections.filterMap (Section.operation? registry)⟩

theorem described_congr {r r' : TypeRegistry}
    (same : ∀ name, r.contains name = r'.contains name) (sections : List (Section root)) :
    described r sections = described r' sections := by
  have type (s : Section root) (_ : s ∈ sections) : s.dataType? r = s.dataType? r' := by
    rw [Section.dataType?, Section.dataType?, DataType.resolve_congr same]
  have operation (s : Section root) (_ : s ∈ sections) : s.operation? r = s.operation? r' := by
    rw [Section.operation?, Section.operation?, Operation.resolve_congr same]
  rw [described, described, List.filterMap_congr type, List.filterMap_congr operation]

/-- Sections make a catalog just if each of them can be read. -/
theorem exists_catalogOf {sections : List (Section root)} :
    (∃ c, catalogOf sections = .ok c) ↔ ∀ s ∈ sections, ∃ added, s.entry? = .ok added := by
  rw [← exists_mapM_ok, catalogOf]
  constructor
  · rintro ⟨c, h⟩
    obtain ⟨entries, read, -⟩ := of_bind_ok h
    exact ⟨entries, read⟩
  · rintro ⟨entries, read⟩
    rw [read]
    exact ⟨_, rfl⟩

/-- With the names looked up, a catalog is what its sections describe, in their order. -/
theorem catalogOf_resolve {sections : List (Section root)} {c : Catalog}
    (h : catalogOf sections = .ok c) (registry : TypeRegistry) :
    c.resolve registry = described registry sections := by
  obtain ⟨entries, read, h⟩ := of_bind_ok h
  cases h
  -- Each section could be read, so nothing is lost where a section that cannot adds nothing.
  have adds : sections.map Section.adds? = entries := calc
    sections.map Section.adds? = (sections.map Section.entry?).map fun e => e.toOption.join := by
      rw [List.map_map]
      rfl
    _ = entries := by
      rw [mapM_ok_iff.mp read, List.map_map]
      exact List.map_id entries
  rw [← adds, described, Catalog.resolve]
  simp only [List.filterMap_filterMap, List.filterMap_map, List.map_filterMap, id,
    Function.comp_apply]
  rfl

/-- The catalog of a page is what its sections describe, in their order, and each of them could be
read. -/
theorem sections_of_catalog {settings : LayoutSettings} {c : Catalog}
    (h : catalog settings root = .ok c) :
    ∃ l content, Layout.ofSettings settings = .ok l ∧ l.contentOf root = .ok content ∧
      c = described c.registry (l.sections content) ∧
      ∀ s ∈ l.sections content, ∃ added, s.entry? = .ok added := by
  unfold catalog at h
  obtain ⟨l, parsed, h⟩ := of_bind_ok h
  obtain ⟨content, found, h⟩ := of_bind_ok h
  obtain ⟨unresolved, read, h⟩ := of_bind_ok h
  cases h
  refine ⟨l, content, of_mapError_ok parsed, found, ?_, exists_catalogOf.mp ⟨unresolved, read⟩⟩
  rw [Catalog.resolved, Catalog.registry_resolve]
  exact catalogOf_resolve read _

theorem described_of_catalog {settings : LayoutSettings} {c : Catalog}
    (h : catalog settings root = .ok c) :
    ∃ l content, Layout.ofSettings settings = .ok l ∧ l.contentOf root = .ok content ∧
      c = described c.registry (l.sections content) := by
  obtain ⟨l, content, parsed, found, whole, -⟩ := sections_of_catalog h
  exact ⟨l, content, parsed, found, whole⟩

/-- The section that starts at a heading with nothing but a table. -/
theorem Layout.section?_of_table {l : Layout} {heading table : Position root} {title : String}
    (titled : Text.trimmed heading.node.innerText = title) (nonempty : title.isEmpty = false)
    (paragraph : l.block? heading "p" = none) (quote : l.block? heading "blockquote" = none)
    (tabled : l.block? heading "table" = some table) :
    l.section? heading =
      some ⟨heading, title, title.toList.head?.any Text.isLower, "", "", some table⟩ := by
  unfold Layout.section?
  rw [titled, paragraph, quote, tabled]
  dsimp only [blockProse]
  rw [if_neg (by simp [nonempty])]

/-- A section that looks like a data type and whose table has no rows adds one without fields. -/
theorem entry?_of_rows_nil {s : Section root} (kind : s.kind = .dataType)
    (tabled : s.table.isSome = true) (rows : s.rows = []) :
    s.entry? = .ok (some (.dataType ⟨s.title, s.description, s.notes, []⟩)) := by
  have some : ¬s.table.isNone = true := by simp [← Option.isSome_iff_ne_none, tabled]
  unfold Section.entry? Section.fields
  rw [kind, rows]
  dsimp only
  rw [if_neg some]
  rfl

/-! ## Sections in another order -/

/-- The same sections in another order name the same data types. -/
theorem contains_registry_of_perm {sections permuted : List (Section root)}
    (order : sections.Perm permuted) {c d : Catalog} (h : catalogOf sections = .ok c)
    (k : catalogOf permuted = .ok d) (name : String) :
    c.registry.contains name = d.registry.contains name := by
  have types : (c.resolve c.registry).types.Perm (d.resolve c.registry).types := by
    rw [catalogOf_resolve h, catalogOf_resolve k]
    exact order.filterMap _
  have names := types.map DataType.name
  rw [Catalog.names_resolve, Catalog.names_resolve] at names
  rw [Catalog.registry, Catalog.registry, TypeRegistry.contains_ofList,
    TypeRegistry.contains_ofList]
  exact names.contains_eq

/-- Whether sections make a catalog does not depend on their order, and neither does what each of
them adds to it: with the names looked up, both catalogs list what the sections describe, each in
the order of its sections and with the same types. -/
theorem catalog_of_perm {sections permuted : List (Section root)}
    (order : sections.Perm permuted) :
    ((∃ c, catalogOf sections = .ok c) ↔ ∃ d, catalogOf permuted = .ok d) ∧
    ∀ c d, catalogOf sections = .ok c → catalogOf permuted = .ok d →
      c.resolved = described c.registry sections ∧
      d.resolved = described c.registry permuted ∧
      c.resolved.types.Perm d.resolved.types ∧
      c.resolved.operations.Perm d.resolved.operations := by
  refine ⟨?_, fun c d h k => ?_⟩
  · rw [exists_catalogOf, exists_catalogOf]
    simp only [order.mem_iff]
  · have first : c.resolved = described c.registry sections := catalogOf_resolve h _
    have second : d.resolved = described c.registry permuted := by
      rw [Catalog.resolved, catalogOf_resolve k]
      exact described_congr (fun name => (contains_registry_of_perm order h k name).symm) _
    refine ⟨first, second, ?_, ?_⟩
    · rw [first, second]
      exact order.filterMap _
    · rw [first, second]
      exact order.filterMap _

/-! ### An operation and the data type of its result -/

section

def emptyTable : Node := .mk .document [block "table" []]

/-- A section that describes a data type without fields. -/
def bareSection (name : String) : Section emptyTable :=
  ⟨.top _, name, false, "", "", some ⟨[0], block "table" [], rfl⟩⟩

/-- A section that describes an operation which gives a `Foo`. -/
def userSection : Section emptyTable :=
  ⟨.top _, "getFoo", true, "Returns Foo on success", "", none⟩

private theorem entry_bareSection (name : String) :
    Section.entry? (bareSection name) = .ok (some (.dataType ⟨name, "", "", []⟩)) :=
  entry?_of_rows_nil rfl rfl rfl

private theorem entry_userSection : userSection.entry? =
    .ok (some (.operation ⟨"getFoo", "Returns Foo on success", "", [], .named "Foo"⟩)) := by
  have kind : userSection.kind = .operation := rfl
  have returns : returnType userSection.description = .ok (.named "Foo") := by
    unfold userSection
    cbv
  unfold Section.entry?
  rw [kind]
  dsimp only
  rw [returns]
  rfl

def pairCatalog : Catalog :=
  ⟨[⟨"Foo", "", "", []⟩, ⟨"Bar", "", "", []⟩],
    [⟨"getFoo", "Returns Foo on success", "", [], .named "Foo"⟩]⟩

def swappedCatalog : Catalog :=
  ⟨[⟨"Bar", "", "", []⟩, ⟨"Foo", "", "", []⟩],
    [⟨"getFoo", "Returns Foo on success", "", [], .named "Foo"⟩]⟩

private theorem catalogOf_pair :
    catalogOf [userSection, bareSection "Foo", bareSection "Bar"] = .ok pairCatalog := by
  rw [catalogOf, List.mapM_cons, entry_userSection, List.mapM_cons, entry_bareSection,
    List.mapM_cons, entry_bareSection]
  rfl

private theorem catalogOf_swapped :
    catalogOf [bareSection "Bar", bareSection "Foo", userSection] = .ok swappedCatalog := by
  rw [catalogOf, List.mapM_cons, entry_bareSection, List.mapM_cons, entry_bareSection,
    List.mapM_cons, entry_userSection]
  rfl

/-- The operation names its result whether the data type comes before it or after it. -/
theorem catalog_of_swapped :
    let sections := [userSection, bareSection "Foo", bareSection "Bar"]
    let swapped := [bareSection "Bar", bareSection "Foo", userSection]
    sections.Perm swapped ∧
    catalogOf sections = .ok pairCatalog ∧ catalogOf swapped = .ok swappedCatalog ∧
    pairCatalog.resolved = described pairCatalog.registry sections ∧
    swappedCatalog.resolved = described pairCatalog.registry swapped ∧
    pairCatalog.resolved.types.Perm swappedCatalog.resolved.types ∧
    pairCatalog.resolved.operations.Perm swappedCatalog.resolved.operations := by
  intro sections swapped
  have order : sections.Perm swapped := (List.reverse_perm sections).symm
  exact ⟨order, catalogOf_pair, catalogOf_swapped,
    (catalog_of_perm order).2 _ _ catalogOf_pair catalogOf_swapped⟩

end

end Page

end ApiReference
