import ApiReference.Proofs.Bindings.TypeNames
import ApiReference.Proofs.Page.Readable
import ApiReference.Proofs.WireType.Within

/-!
The names in the catalog of a page. What names a data type is the name of one, every other name is
marked as foreign, and so the generated source names no structure that it does not declare.
-/

namespace ApiReference

namespace WireType

variable {named foreign : String → Prop}

/-- Looking up names that are all known changes nothing. -/
theorem Orderly.resolve_eq {registry : TypeRegistry} {t : WireType} (h : t.Orderly named foreign)
    (known : ∀ n, named n → registry.contains n = true) : t.resolve registry = t := by
  induction h with
  | scalar kind => rw [resolve]
  | array _ ih => rw [resolve, ih]
  | union _ _ _ ih =>
    rw [resolve]
    congr 1
    rw [List.map_congr_left ih, List.map_id']
  | named holds => rw [resolve, if_pos (known _ holds)]
  | foreign => rw [resolve]

end WireType

/-! ## Names looked up once more -/

theorem DataType.resolve_eq {registry : TypeRegistry} {t : DataType}
    (h : ∀ w ∈ t.wireTypes, w.resolve registry = w) : t.resolve registry = t := by
  have field (f : Field) (hf : f ∈ t.fields) : f.resolve registry = f := by
    rw [Field.resolve, h f.type (List.mem_map_of_mem hf)]
  rw [DataType.resolve, List.map_congr_left field, List.map_id']

theorem Operation.resolve_eq {registry : TypeRegistry} {o : Operation}
    (h : ∀ w ∈ o.wireTypes, w.resolve registry = w) : o.resolve registry = o := by
  have parameter (p : Parameter) (hp : p ∈ o.parameters) : p.resolve registry = p := by
    rw [Parameter.resolve, h p.type (List.mem_append_left _ (List.mem_map_of_mem hp))]
  have returns : o.returns.resolve registry = o.returns :=
    h o.returns (List.mem_append_right _ List.mem_cons_self)
  rw [Operation.resolve, List.map_congr_left parameter, List.map_id', returns]

theorem Catalog.resolve_eq {registry : TypeRegistry} {c : Catalog}
    (h : ∀ w ∈ c.wireTypes, w.resolve registry = w) : c.resolve registry = c := by
  have type (t : DataType) (ht : t ∈ c.types) : t.resolve registry = t :=
    DataType.resolve_eq fun w hw =>
      h w (List.mem_append_left _ (List.mem_flatMap.mpr ⟨t, ht, hw⟩))
  have operation (o : Operation) (ho : o ∈ c.operations) : o.resolve registry = o :=
    Operation.resolve_eq fun w hw =>
      h w (List.mem_append_right _ (List.mem_flatMap.mpr ⟨o, ho, hw⟩))
  rw [Catalog.resolve, List.map_congr_left type, List.map_id', List.map_congr_left operation,
    List.map_id']

/-- Looking names up leaves the names of the data types as they are. -/
theorem Catalog.names_resolve (registry : TypeRegistry) (c : Catalog) :
    (c.resolve registry).types.map DataType.name = c.types.map DataType.name := by
  simp [Catalog.resolve, DataType.resolve, Function.comp_def]

theorem Catalog.contains_registry (c : Catalog) (name : String) :
    c.registry.contains name = true ↔ name ∈ c.types.map DataType.name := by
  rw [Catalog.registry, TypeRegistry.contains_ofList, List.contains_iff_mem]

namespace Page

/-- In the types of a page the names of data types are told from all others. -/
theorem catalog_orderly {settings : LayoutSettings} {root : Html.Node} {c : Catalog}
    (h : catalog settings root = .ok c) :
    ∀ w ∈ c.wireTypes, w.Orderly
      (fun n => WireType.NameLike n ∧ n ∈ c.types.map DataType.name)
      (fun n => WireType.NameLike n ∧ n ∉ c.types.map DataType.name) := by
  obtain ⟨unresolved, rfl, types⟩ := catalog_resolved h
  intro w hw
  rw [Catalog.resolved, Catalog.wireTypes_resolve] at hw
  obtain ⟨t, ht, rfl⟩ := List.mem_map.mp hw
  rw [Catalog.resolved, Catalog.names_resolve]
  refine ((types t ht).resolve unresolved.registry).mono (fun n name => ⟨name.1, ?_⟩)
    fun n name => ⟨name.1, ?_⟩
  · exact (unresolved.contains_registry n).mp name.2
  · rw [← unresolved.contains_registry n, name.2]
    exact Bool.false_ne_true

/-- What the types of a page name as data types are its data types and what they mark as foreign
are not, at every depth; the Rust types for them use only names that are built in or declared in
the data model; and looking the names up once more changes nothing. -/
theorem names_of_catalog {settings : LayoutSettings} {root : Html.Node} {c : Catalog}
    (h : catalog settings root = .ok c) :
    (∀ w ∈ c.wireTypes, ∀ name : String,
      ((WireType.named name).Within w → ∃ t ∈ c.types, t.name = name) ∧
      ((WireType.foreign name).Within w → ∀ t ∈ c.types, t.name ≠ name)) ∧
    (∀ w ∈ c.wireTypes,
      ∀ name ∈ Bindings.typeNames w.rustMember ++ Bindings.typeNames w.rustValue,
        name ∉ Bindings.builtIn →
          (∃ t ∈ c.types, t.name = name) ∧ Bindings.Declares (Bindings.models c.types) name) ∧
    c.resolved = c := by
  have orderly := catalog_orderly h
  refine ⟨fun w hw name => ⟨fun within => ?_, fun within t ht same => ?_⟩,
    fun w hw name mem other => ?_, ?_⟩
  · exact List.mem_map.mp ((orderly w hw).named_within within).2
  · exact ((orderly w hw).foreign_within within).2 (List.mem_map.mpr ⟨t, ht, same⟩)
  · have known : WireType.NameLike name ∧ name ∈ c.types.map DataType.name := by
      rcases List.mem_append.mp mem with member | value
      · exact (Bindings.typeNames_rustMember (orderly w hw) (fun _ n => n.1) name member).resolve_left
          other
      · exact (Bindings.typeNames_rustValue (orderly w hw) (fun _ n => n.1) name value).resolve_left
          other
    obtain ⟨nameLike, listed⟩ := known
    obtain ⟨t, ht, rfl⟩ := List.mem_map.mp listed
    exact ⟨⟨t, ht, rfl⟩, Bindings.declares_models ht nameLike⟩
  · refine Catalog.resolve_eq fun w hw => (orderly w hw).resolve_eq fun n name => ?_
    exact (c.contains_registry n).mpr name.2

/-! ### A page with a data type that names itself -/

section

open Html

/-- A page that describes the data type `Node`, which names itself and one that the page lacks. -/
def listPage : Node :=
  pageWith [markedHeading "Node",
    tableOf [fieldRow "next" "Array of Node", fieldRow "last" "Node or Leaf"]]

/-- What that page describes. -/
def listCatalog : Catalog :=
  ⟨[⟨"Node", "", "", [⟨"next", .array (.named "Node"), false, ""⟩,
    ⟨"last", .union [.named "Node", .foreign "Leaf"], false, ""⟩]⟩], []⟩

private def listBody : Position listPage := ⟨[0, 1], _, rfl⟩

private def listHeading : Position listPage := ⟨[0, 1, 0], _, rfl⟩

private def listTable : Position listPage := ⟨[0, 1, 1], _, rfl⟩

private def listSection : Section listPage := ⟨listHeading, "Node", false, "", "", some listTable⟩

private def nextCells : List (Position listPage) :=
  [⟨[0, 1, 1, 0, 0, 0], _, rfl⟩, ⟨[0, 1, 1, 0, 0, 1], _, rfl⟩, ⟨[0, 1, 1, 0, 0, 2], _, rfl⟩]

private def lastCells : List (Position listPage) :=
  [⟨[0, 1, 1, 0, 1, 0], _, rfl⟩, ⟨[0, 1, 1, 0, 1, 1], _, rfl⟩, ⟨[0, 1, 1, 0, 1, 2], _, rfl⟩]

private theorem section_listHeading : plainLayout.section? listHeading = some listSection := by
  have title : Text.trimmed listHeading.node.innerText = "Node" := by cbv
  have paragraph : plainLayout.block? listHeading "p" = none := rfl
  have quote : plainLayout.block? listHeading "blockquote" = none := rfl
  have table : plainLayout.block? listHeading "table" = some listTable := rfl
  unfold Layout.section?
  rw [title, paragraph, quote, table]
  rfl

private theorem ofPageWord_leaf (field : String) :
    WireType.ofPageWord (some field) "Leaf".toList = .ok (.named "Leaf") := by
  cbv

private theorem ofLinkedText_next :
    WireType.ofLinkedText "next" "Array of Node" [] = .ok (.array (.named "Node")) := by
  have tight : Text.trim "Array of Node".toList = "Array of Node".toList := rfl
  have array : WireType.dropArrayOf? "Array of Node".toList = some "Node".toList := rfl
  have single : WireType.dropArrayOf? "Node".toList = none := rfl
  have noUnion : ¬ Text.occursIn WireType.unionWord "Node".toList = true := by decide
  unfold WireType.ofLinkedText
  rw [tight, WireType.stripArrays_of_some array, WireType.stripArrays_of_none single]
  dsimp only
  rw [if_neg noUnion, ofPageWord_node]
  rfl

private theorem ofLinkedText_last :
    WireType.ofLinkedText "last" "Node or Leaf" []
      = .ok (.union [.named "Node", .named "Leaf"]) := by
  have tight : Text.trim "Node or Leaf".toList = "Node or Leaf".toList := rfl
  have single : WireType.dropArrayOf? "Node or Leaf".toList = none := rfl
  have union : Text.occursIn WireType.unionWord "Node or Leaf".toList = true := rfl
  have cut : Text.splitOn WireType.unionWord "Node or Leaf".toList
      = ["Node".toList, "Leaf".toList] := rfl
  unfold WireType.ofLinkedText
  rw [tight, WireType.stripArrays_of_none single]
  dsimp only
  rw [if_pos union, cut, WireType.unionOf, List.mapM_cons, ofPageWord_node, List.mapM_cons,
    ofPageWord_leaf]
  rfl

private theorem entry_listSection : listSection.entry? =
    .ok (some (.dataType ⟨"Node", "", "", [⟨"next", .array (.named "Node"), false, ""⟩,
      ⟨"last", .union [.named "Node", .named "Leaf"], false, ""⟩]⟩)) := by
  have kind : listSection.kind = .dataType := rfl
  have rows : listSection.rows = [nextCells, lastCells] := rfl
  have nextField : fieldOfRow "Node" 1 nextCells
      = .ok ⟨"next", .array (.named "Node"), false, ""⟩ :=
    fieldOfRow_plain (by cbv) rfl (by cbv) ofLinkedText_next rfl (by cbv)
  have lastField : fieldOfRow "Node" 2 lastCells
      = .ok ⟨"last", .union [.named "Node", .named "Leaf"], false, ""⟩ :=
    fieldOfRow_plain (by cbv) rfl (by cbv) ofLinkedText_last rfl (by cbv)
  unfold Section.entry? Section.fields
  rw [kind, rows]
  dsimp only
  rw [readRows, readRows, readRows, show listSection.title = "Node" from rfl, nextField, lastField]
  rfl

theorem catalog_listPage : catalog {} listPage = .ok listCatalog := by
  have sections : plainLayout.sections listBody = [listSection] := by
    have headings : plainLayout.headings listBody = [listHeading] := rfl
    rw [Layout.sections, headings, List.filterMap_cons, section_listHeading]
    rfl
  have unresolved : catalogOf [listSection] =
      .ok ⟨[⟨"Node", "", "", [⟨"next", .array (.named "Node"), false, ""⟩,
        ⟨"last", .union [.named "Node", .named "Leaf"], false, ""⟩]⟩], []⟩ := by
    rw [catalogOf, List.mapM_cons, entry_listSection]
    rfl
  refine (catalog_pageWith sections unresolved).trans ?_
  cbv

theorem names_of_catalog_listPage :
    catalog {} listPage = .ok listCatalog ∧
      (∀ w ∈ listCatalog.wireTypes, ∀ name : String,
        ((WireType.named name).Within w → ∃ t ∈ listCatalog.types, t.name = name) ∧
        ((WireType.foreign name).Within w → ∀ t ∈ listCatalog.types, t.name ≠ name)) ∧
      (∀ w ∈ listCatalog.wireTypes,
        ∀ name ∈ Bindings.typeNames w.rustMember ++ Bindings.typeNames w.rustValue,
          name ∉ Bindings.builtIn →
            (∃ t ∈ listCatalog.types, t.name = name) ∧
              Bindings.Declares (Bindings.models listCatalog.types) name) ∧
      listCatalog.resolved = listCatalog :=
  ⟨catalog_listPage, names_of_catalog catalog_listPage⟩

end

end Page

end ApiReference
