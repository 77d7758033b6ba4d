import ApiReference.Proofs.Bindings.Declarations
import ApiReference.Proofs.Page.Order

/-!
What the source generated for a page declares. Nothing compares one name with another, so source
declares something twice just if two of the names that are made for it coincide
(`declaresOnce_of_catalog`). For names that follow the conventions of the wire format that is so
just if two of the names themselves do. Two sections of one title declare one structure twice
(`twice_of_twinPage`).
-/

namespace ApiReference

/-! ## Names of a catalog -/

namespace Catalog

/-- Whether the names that are made for a catalog differ. -/
structure NamedApart (c : Catalog) : Prop where
  types : (c.types.map DataType.name).Nodup
  requests : ((Bindings.withRequest c.operations).map fun o => Identifier.request o.name).Nodup
  methods : (c.operations.map fun o => Identifier.method o.name).Nodup
  fields : ∀ t ∈ c.types, (t.fields.map fun f => Identifier.field f.name).Nodup
  parameters : ∀ o ∈ c.operations, (o.parameters.map fun p => Identifier.field p.name).Nodup

/-- Whether the names of a catalog differ: those of its data types, those of its operations, and
those in each of its tables. -/
structure Distinct (c : Catalog) : Prop where
  types : (c.types.map DataType.name).Nodup
  operations : (c.operations.map Operation.name).Nodup
  fields : ∀ t ∈ c.types, (t.fields.map Field.name).Nodup
  parameters : ∀ o ∈ c.operations, (o.parameters.map Parameter.name).Nodup

/-- Whether the names of a catalog follow the conventions of the wire format: those of operations
are camel case, and those of fields and parameters snake case. -/
structure Conventional (c : Catalog) : Prop where
  operations : ∀ o ∈ c.operations, Identifier.isCamel false o.name.toList = true
  fields : ∀ t ∈ c.types, ∀ f ∈ t.fields, Identifier.isSnake true f.name.toList = true
  parameters : ∀ o ∈ c.operations, ∀ p ∈ o.parameters,
    Identifier.isSnake true p.name.toList = true

/-- Whether the names of a catalog can be read back from source. -/
structure Legible (c : Catalog) : Prop where
  types : ∀ t ∈ c.types, Bindings.LegibleType t
  operations : ∀ o ∈ c.operations, Bindings.LegibleOperation o

/-- Names that are mapped apart differ just if their images do. -/
private theorem nodup_map_comp_iff {α : Type} {name : α → String} {made : String → String}
    {xs : List α}
    (apart : ∀ x ∈ xs, ∀ y ∈ xs, made (name x) = made (name y) → name x = name y) :
    (xs.map fun x => made (name x)).Nodup ↔ (xs.map name).Nodup := by
  rw [show (xs.map fun x => made (name x)) = (xs.map name).map made by simp]
  constructor
  · exact List.Nodup.of_map made
  · refine List.Nodup.map_on fun a ha b hb same => ?_
    obtain ⟨x, hx, rfl⟩ := List.mem_map.mp ha
    obtain ⟨y, hy, rfl⟩ := List.mem_map.mp hb
    exact apart x hx y hy same

/-- Names that follow the conventions are made apart just if they differ. -/
theorem Conventional.namedApart_iff {c : Catalog} (h : c.Conventional) :
    c.NamedApart ↔ c.Distinct := by
  have methods : (c.operations.map fun o => Identifier.method o.name).Nodup ↔
      (c.operations.map Operation.name).Nodup :=
    nodup_map_comp_iff fun o ho p hp =>
      Identifier.method_injective (h.operations o ho) (h.operations p hp)
  have fields (t : DataType) (ht : t ∈ c.types) :
      (t.fields.map fun f => Identifier.field f.name).Nodup ↔ (t.fields.map Field.name).Nodup :=
    nodup_map_comp_iff fun f hf g hg =>
      Identifier.field_injective (h.fields t ht f hf) (h.fields t ht g hg)
  have parameters (o : Operation) (ho : o ∈ c.operations) :
      (o.parameters.map fun p => Identifier.field p.name).Nodup ↔
        (o.parameters.map Parameter.name).Nodup :=
    nodup_map_comp_iff fun p hp q hq =>
      Identifier.field_injective (h.parameters o ho p hp) (h.parameters o ho q hq)
  constructor
  · intro apart
    exact ⟨apart.types, methods.mp apart.methods, fun t ht => (fields t ht).mp (apart.fields t ht),
      fun o ho => (parameters o ho).mp (apart.parameters o ho)⟩
  · intro distinct
    refine ⟨distinct.types, ?_, methods.mpr distinct.operations,
      fun t ht => (fields t ht).mpr (distinct.fields t ht),
      fun o ho => (parameters o ho).mpr (distinct.parameters o ho)⟩
    have some : (Bindings.withRequest c.operations).Sublist c.operations := List.filter_sublist
    refine (nodup_map_comp_iff fun o ho p hp => ?_).mpr (distinct.operations.sublist (some.map _))
    exact Identifier.request_injective (h.operations o (some.subset ho))
      (h.operations p (some.subset hp))

end Catalog

/-! ## What source declares -/

/-- Whether no two structures of the data model, no two structures or methods of the bindings and no
two members of a structure have the same name. Names are compared as they are written: `Foo` and
`Foo<T>` differ, `foo` and `r#foo` do, and so do composed and decomposed letters. -/
structure Bindings.DeclaresOnce (models bindings : String) : Prop where
  types : ((structuresOf models).map Declared.name).Nodup
  requests : ((structuresOf bindings).map Declared.name).Nodup
  methods : (methodsOf bindings).Nodup
  members : ∀ d ∈ structuresOf models ++ structuresOf bindings, d.members.Nodup

namespace Page

open Html

theorem oneLine_of_catalog {settings : LayoutSettings} {root : Node} {c : Catalog}
    (h : catalog settings root = .ok c) :
    ∀ w ∈ c.wireTypes, Bindings.OneLine w.rustMember ∧ Bindings.OneLine w.rustValue := by
  intro w hw
  have orderly := catalog_orderly h w hw
  exact ⟨Bindings.oneLine_rustMember orderly fun n name => Bindings.oneLine_of_nameLike name.1,
    Bindings.oneLine_rustValue orderly fun n name => Bindings.oneLine_of_nameLike name.1⟩

/-- The source generated for a page declares what its catalog lists, in that order. -/
theorem declared_of_catalog {settings : LayoutSettings} {root : Node} {c : Catalog}
    (h : catalog settings root = .ok c) (legible : c.Legible) {output : OutputSettings}
    (oneLine : Bindings.LegibleSettings output) :
    Bindings.structuresOf (Bindings.models c.types) = c.types.map Bindings.declaredType ∧
      Bindings.structuresOf (Bindings.client output c.operations) =
        (Bindings.withRequest c.operations).map Bindings.declaredRequest ∧
      Bindings.methodsOf (Bindings.client output c.operations) =
        c.operations.map fun o => Identifier.method o.name := by
  have written := oneLine_of_catalog h
  have ofType : ∀ t ∈ c.types, ∀ w ∈ t.wireTypes, w ∈ c.wireTypes := fun t ht w hw =>
    List.mem_append_left _ (List.mem_flatMap.mpr ⟨t, ht, hw⟩)
  have ofOperation : ∀ o ∈ c.operations, ∀ w ∈ o.wireTypes, w ∈ c.wireTypes := fun o ho w hw =>
    List.mem_append_right _ (List.mem_flatMap.mpr ⟨o, ho, hw⟩)
  constructor
  · exact Bindings.structuresOf_models legible.types fun t ht w hw =>
      (written w (ofType t ht w hw)).1
  · refine Bindings.declared_client oneLine legible.operations (fun o ho w hw => ?_) fun o ho => ?_
    · exact (written w (ofOperation o ho w hw)).1
    · exact (written _ (ofOperation o ho _ (List.mem_append_right _ List.mem_cons_self))).2

/-- The source generated for a page declares nothing twice just if the names made for it differ. -/
theorem declaresOnce_iff {settings : LayoutSettings} {root : Node} {c : Catalog}
    (h : catalog settings root = .ok c) (legible : c.Legible) {output : OutputSettings}
    (oneLine : Bindings.LegibleSettings output) :
    Bindings.DeclaresOnce (Bindings.models c.types) (Bindings.client output c.operations) ↔
      c.NamedApart := by
  obtain ⟨structures, requests, methods⟩ := declared_of_catalog h legible oneLine
  have names : (c.types.map Bindings.declaredType).map Bindings.Declared.name =
      c.types.map DataType.name := by
    rw [List.map_map]
    rfl
  have requestNames : ((Bindings.withRequest c.operations).map Bindings.declaredRequest).map
      Bindings.Declared.name =
        (Bindings.withRequest c.operations).map fun o => Identifier.request o.name := by
    rw [List.map_map]
    rfl
  constructor
  · rintro ⟨types, requestsOnce, methodsOnce, members⟩
    rw [structures, names] at types
    rw [requests, requestNames] at requestsOnce
    rw [methods] at methodsOnce
    rw [structures, requests] at members
    refine ⟨types, requestsOnce, methodsOnce, fun t ht => ?_, fun o ho => ?_⟩
    · exact members _ (List.mem_append_left _ (List.mem_map_of_mem ht))
    · -- An operation without parameters has no structure, and no member to repeat.
      by_cases empty : o.parameters.isEmpty
      · rw [List.isEmpty_iff.mp empty]
        exact List.nodup_nil
      · have listed : o ∈ Bindings.withRequest c.operations :=
          List.mem_filter.mpr ⟨ho, by simpa using empty⟩
        exact members _ (List.mem_append_right _ (List.mem_map_of_mem listed))
  · rintro ⟨types, requestsOnce, methodsOnce, fields, parameters⟩
    refine ⟨?_, ?_, ?_, fun d hd => ?_⟩
    · rwa [structures, names]
    · rwa [requests, requestNames]
    · rwa [methods]
    · rw [structures, requests, List.mem_append, List.mem_map, List.mem_map] at hd
      rcases hd with ⟨t, ht, rfl⟩ | ⟨o, ho, rfl⟩
      · exact fields t ht
      · exact parameters o (List.mem_of_mem_filter ho)

/-- The source generated for a page with names that can be read back declares nothing twice just if
no two data types have the same title, no two structures for parameters and no two methods are named
the same, and no two fields or parameters of one table make the same identifier. If operations are
in camel case and fields and parameters in snake case, that is just if the titles of the data types
and of the operations differ and so do the names in each table. -/
theorem declaresOnce_of_catalog {settings : LayoutSettings} {root : Node} {c : Catalog}
    (h : catalog settings root = .ok c) (legible : c.Legible) {output : OutputSettings}
    (oneLine : Bindings.LegibleSettings output) :
    (Bindings.DeclaresOnce (Bindings.models c.types) (Bindings.client output c.operations) ↔
      c.NamedApart) ∧
    (c.Conventional →
      (Bindings.DeclaresOnce (Bindings.models c.types) (Bindings.client output c.operations) ↔
        c.Distinct)) := by
  have once := declaresOnce_iff h legible oneLine
  exact ⟨once, fun conventional => once.trans conventional.namedApart_iff⟩

/-! ### Two pages -/

section

private theorem legible_settings : Bindings.LegibleSettings {} :=
  ⟨by decide, by decide, by decide, by decide⟩

theorem declaresOnce_of_callPage :
    catalog {} callPage = .ok callCatalog ∧ callCatalog.Legible ∧ Bindings.LegibleSettings {} ∧
      callCatalog.Conventional ∧
      Bindings.DeclaresOnce (Bindings.models callCatalog.types)
        (Bindings.client {} callCatalog.operations) := by
  have legible : callCatalog.Legible := by
    refine ⟨fun t ht => ?_, fun o ho => ?_⟩
    · rw [List.mem_singleton.mp ht]
      exact ⟨by decide, by decide, by decide⟩
    · rw [List.mem_singleton.mp ho]
      exact ⟨by decide, by decide, by simp, by simp⟩
  have conventional : callCatalog.Conventional := ⟨by decide, by decide, by simp [callCatalog]⟩
  have distinct : callCatalog.Distinct := ⟨by decide, by decide, by decide, by decide⟩
  obtain ⟨_, once⟩ := declaresOnce_of_catalog catalog_callPage legible legible_settings
  exact ⟨catalog_callPage, legible, legible_settings, conventional, (once conventional).mpr distinct⟩

/-- Two sections of one title declare one structure twice. -/
theorem twice_of_twinPage :
    catalog {} twinPage = .ok twinCatalog ∧
      (∀ t ∈ twinCatalog.types, (t.fields.map Field.name).Nodup) ∧
      (∀ o ∈ twinCatalog.operations, (o.parameters.map Parameter.name).Nodup) ∧
      ¬Bindings.DeclaresOnce (Bindings.models twinCatalog.types)
        (Bindings.client {} twinCatalog.operations) := by
  have legible : twinCatalog.Legible := by
    refine ⟨fun t ht => ?_, by simp [twinCatalog]⟩
    simp only [twinCatalog, List.mem_cons, List.not_mem_nil, or_false, or_self] at ht
    rw [ht]
    exact ⟨by decide, by simp, by simp⟩
  refine ⟨catalog_twinPage, by decide, by simp [twinCatalog], fun once => ?_⟩
  have apart := (declaresOnce_iff catalog_twinPage legible legible_settings).mp once
  exact absurd apart.types (by decide)

end

end Page

end ApiReference
