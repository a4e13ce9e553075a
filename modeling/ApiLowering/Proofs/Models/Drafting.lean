import ApiLowering.Models.Draft
import ApiLowering.Proofs.Document.References
import ApiLowering.Proofs.Lists
import ApiLowering.Proofs.Run.Steps
import ApiLowering.Proofs.Tables

/-!
# Drafts of component schemas

What the draft of a component schema has from the schema: it goes by the key and the class name of
its component, and has one property for each of its shape, in order.

## Main definitions

* `Property.outline` — what a property is called, and what its type is.
* `Property.markedBy` — a property as a discriminator leaves it.
* `Resolver.describedProperty`, `Resolver.completedProperty` — the two halves of a property.
* `Resolver.PropertyOf` — a property is that of a schema under a name.
* `Resolver.ClassOf` — a model is the class of a schema with some properties.
* `Resolver.classWith`, `Resolver.enumWith` — a model from what was found on the way to it.
* `Resolver.constantType` — the type that the constants of a model are named by.
* `Resolver.Drafted` — how a schema is drafted.
* `Resolver.SchemaAt` — the schema of a component.
* `Resolver.HasParent` — a schema refers to the one that its model extends.
* `Resolver.DraftOf` — what a draft has from its schema.

## Main results

* `Resolver.property_eq_ok_iff` — what is found on the way from a schema to its property.
* `Resolver.properties_eq_ok` — all that the properties of a shape are made from.
* `Resolver.property_spec`, `Resolver.properties_spec` — what properties are called.
* `Resolver.drafted_of_draft` — all that a draft is made from.
* `Resolver.drafts_spec` — every draft is that of a component schema.
-/

namespace ApiLowering

/-- What a property is called and what its type is, without anything that a schema says of its
values. -/
def Property.outline (p : Property) : Property where
  name := p.name
  baseName := p.baseName
  realName := p.realName
  nameInCamelCase := p.nameInCamelCase
  nameInSnakeCase := p.nameInSnakeCase
  getter := p.getter
  setter := p.setter
  type := p.type
  isEnum := p.isEnum
  required := p.required
  isDiscriminator := p.isDiscriminator
  isOverridden := p.isOverridden

/-- A property as a discriminator leaves it: the one that models are told apart by is marked. -/
def Property.markedBy (discriminator : Option ModelDiscriminator) (p : Property) : Property :=
  match discriminator with
  | none => p
  | some d => if p.baseName == d.propertyBaseName then { p with isDiscriminator := true } else p

lemma Property.markedBy_eq (discriminator : Option ModelDiscriminator) (p : Property) :
    p.markedBy discriminator = p ∨ p.markedBy discriminator = { p with isDiscriminator := true } := by
  cases discriminator with
  | none => exact .inl rfl
  | some d =>
    rw [markedBy]
    split
    · exact .inr rfl
    · exact .inl rfl

namespace Resolver

variable {r : Resolver} {s s' : Session} {key classname : String} {schema target : Schema}
  {shape : Shape}

/-! ## Parts -/

/-- The paths of the parts are the references in the list of a schema. -/
lemma mem_partPaths_iff {path : String} : path ∈ partPaths schema ↔ .ref path ∈ schema.allOf := by
  rw [partPaths, List.mem_filterMap]
  constructor
  · rintro ⟨part, hpart, hpath⟩
    cases part with
    | inline => cases hpath
    | ref path' => exact Option.some.inj hpath ▸ hpart
  · exact fun h => ⟨_, h, rfl⟩

/-! ## Properties -/

/-- A property of a known type, with what a schema says of its values. -/
def describedProperty (r : Resolver) (name baseName : String) (ref : SchemaRef) (required : Bool)
    (target : Schema) (t : ResolvedType) : Property :=
  let p := ({ r.namedProperty name baseName with required } : Property).withType t
  let p := { p with isEnum := t.innermost.isInlineEnum && t.items.isNone }
  match describing ref target t with
  | some s => p.described s
  | none => p

/-- The property with its items, its constants and its default. -/
def completedProperty (r : Resolver) (p : Property) (items : Option Property)
    (enumConstants : List EnumConstant) (value : DefaultValue) : Property :=
  let p := { p with
    items, enumConstants, defaultValue := value.plain, initializer := value.initializer }
  ({ p with facets := r.propertyFacets p } : Property).annotated r.setup.annotator

lemma property_eq {baseName : String} {ref : SchemaRef} {required : Bool} {site : DefaultSite} :
    r.property baseName ref required site = do
      let name ← r.setup.names.propertyName baseName
      let t ← r.propertyType name ref
      let (_, target) ← r.components.resolveSchema ref
      let p := r.describedProperty name baseName ref required target t
      let items ← r.itemsOf name baseName target t.items
      let constants ← r.propertyConstants { p with items } target t
      let value ← r.setup.defaultValue r.components ref t p.isNullable site
      return (r.completedProperty p items constants value, t.imports) := rfl

/-- What is found on the way from a schema to its property. -/
lemma property_eq_ok_iff {baseName : String} {ref : SchemaRef} {required : Bool}
    {site : DefaultSite} {p : Property} {imports : NameSet} :
    r.property baseName ref required site s = .ok ((p, imports), s') ↔
      ∃ name t s₁ key target described items s₂ constants s₃ value,
        r.setup.names.propertyName baseName = .ok name ∧
        r.propertyType name ref s = .ok (t, s₁) ∧
        r.components.resolveSchema ref = .ok (key, target) ∧
        r.describedProperty name baseName ref required target t = described ∧
        r.itemsOf name baseName target t.items s₁ = .ok (items, s₂) ∧
        r.propertyConstants { described with items } target t s₂ = .ok (constants, s₃) ∧
        r.setup.defaultValue r.components ref t described.isNullable site s₃ = .ok (value, s') ∧
        p = r.completedProperty described items constants value ∧ imports = t.imports := by
  simp only [property_eq, Lowering.bind_eq_ok_iff, Lowering.pure_eq_ok_iff, Lowering.lift_eq_ok_iff,
    Prod.mk.injEq]
  constructor
  · rintro ⟨name, _, ⟨hname, rfl⟩, t, s₁, ht, ⟨key, target⟩, _, ⟨htarget, rfl⟩, items, s₂, hitems,
      constants, s₃, hconstants, value, _, hvalue, ⟨rfl, rfl⟩, rfl⟩
    exact ⟨name, t, s₁, key, target, _, items, s₂, constants, s₃, value, hname, ht, htarget, rfl,
      hitems, hconstants, hvalue, rfl, rfl⟩
  · rintro ⟨name, t, s₁, key, target, _, items, s₂, constants, s₃, value, hname, ht, htarget, rfl,
      hitems, hconstants, hvalue, rfl, rfl⟩
    exact ⟨name, s, ⟨hname, rfl⟩, t, s₁, ht, (key, target), s₁, ⟨htarget, rfl⟩, items, s₂, hitems,
      constants, s₃, hconstants, value, s', hvalue, ⟨rfl, rfl⟩, rfl⟩

/-- What a schema says of its values leaves the names and the type of a property alone. -/
lemma outline_describedProperty {name baseName : String} {ref : SchemaRef} {required : Bool}
    {t : ResolvedType} {described : Property}
    (h : r.describedProperty name baseName ref required target t = described) :
    described.outline =
      { r.namedProperty name baseName with
        required
        type := t.facts
        isEnum := t.innermost.isInlineEnum && t.items.isNone } := by
  rw [← h, describedProperty]
  cases describing ref target t with
  | none => rfl
  | some s => rfl

/-- A property goes by the name of a schema in the document, and by what this name becomes. -/
structure PropertyOf (r : Resolver) (name : String) (required : Bool) (p : Property) : Prop where
  baseName : p.baseName = name
  name : r.setup.names.propertyName name = .ok p.name
  required : p.required = required
  isDiscriminator : p.isDiscriminator = false

lemma property_spec {name : String} {ref : SchemaRef} {required : Bool} {site : DefaultSite}
    {p : Property} {imports : NameSet}
    (h : r.property name ref required site s = .ok ((p, imports), s')) :
    PropertyOf r name required p := by
  obtain ⟨own, t, _, _, target, described, _, _, _, _, _, hown, -, -, hdescribed, -, -, -, rfl,
    -⟩ := property_eq_ok_iff.1 h
  have houtline := outline_describedProperty hdescribed
  have hname : described.name = own := congrArg Property.name houtline
  exact ⟨congrArg Property.baseName houtline, hname ▸ hown, congrArg Property.required houtline,
    congrArg Property.isDiscriminator houtline⟩

/-- **All that the properties of a shape are made from**: what each of its schemas becomes, in order.
They import what each of them imports. -/
theorem properties_eq_ok {ps : List Property} {imports : NameSet}
    (h : r.properties shape s = .ok ((ps, imports), s')) : ∃ found : List (Property × NameSet),
      List.Forall₂ (fun e f => ∃ t t',
          r.property e.1 e.2 (shape.requires e.1) .property t = .ok (f, t'))
        shape.properties.entries found ∧
      ps = found.map Prod.fst ∧ ∀ name, name ∈ imports ↔ ∃ f ∈ found, name ∈ f.2 := by
  rw [properties] at h
  refine Lowering.foldlM_induction
    (P := fun done (out : List Property × NameSet) => ∃ found : List (Property × NameSet),
      List.Forall₂ (fun e f => ∃ t t',
          r.property e.1 e.2 (shape.requires e.1) .property t = .ok (f, t')) done found ∧
        out.1 = found.map Prod.fst ∧ ∀ name, name ∈ out.2 ↔ ∃ f ∈ found, name ∈ f.2) h ?_ ?_
  · exact ⟨[], .nil, rfl, fun name => iff_of_false (fun hname => List.not_mem_nil hname) (by simp)⟩
  · rintro done ⟨name, ref⟩ - ⟨ps, imports⟩ t ⟨ps', imports'⟩ t' ⟨found, hall, hps, himports⟩ hstep
    simp only [Lowering.bind_eq_ok_iff, Lowering.pure_eq_ok_iff] at hstep
    obtain ⟨⟨p, more⟩, t'', hp, hout, -⟩ := hstep
    obtain ⟨rfl, rfl⟩ := Prod.mk.inj hout
    dsimp only at hps himports ⊢
    refine ⟨found ++ [(p, more)], List.rel_append hall (.cons ⟨t, t'', hp⟩ .nil), ?_, fun other => ?_⟩
    · rw [hps, List.map_append, List.map_singleton]
    · rw [NameSet.mem_union, himports]
      simp only [List.mem_append, List.mem_singleton, or_and_right, exists_or, exists_eq_left]

/-- Every property of a shape is what a schema becomes, and what it imports is imported. -/
lemma exists_property_of_mem {ps : List Property} {imports : NameSet} {p : Property}
    (h : r.properties shape s = .ok ((ps, imports), s')) (hp : p ∈ ps) :
    ∃ name ref required more t t',
      r.property name ref required .property t = .ok ((p, more), t') ∧
        ∀ name ∈ more, name ∈ imports := by
  obtain ⟨found, hall, rfl, himports⟩ := properties_eq_ok h
  obtain ⟨⟨p, more⟩, hf, rfl⟩ := List.mem_map.1 hp
  obtain ⟨⟨name, ref⟩, -, t, t', hmade⟩ := exists_mem_right_of_forall₂ hall hf
  exact ⟨name, ref, _, more, t, t', hmade, fun name hname => (himports name).2 ⟨_, hf, hname⟩⟩

/-- All that a shape imports is imported by one of its properties. -/
lemma exists_property_of_mem_imports {ps : List Property} {imports : NameSet} {name : String}
    (h : r.properties shape s = .ok ((ps, imports), s')) (hname : name ∈ imports) :
    ∃ own ref required p more t t',
      r.property own ref required .property t = .ok ((p, more), t') ∧ name ∈ more := by
  obtain ⟨found, hall, -, himports⟩ := properties_eq_ok h
  obtain ⟨⟨p, more⟩, hf, hname⟩ := (himports name).1 hname
  obtain ⟨⟨own, ref⟩, -, t, t', hmade⟩ := exists_mem_right_of_forall₂ hall hf
  exact ⟨own, ref, _, p, more, t, t', hmade, hname⟩

/-- The properties of a shape, one for each name, in order. -/
theorem properties_spec {ps : List Property} {imports : NameSet}
    (h : r.properties shape s = .ok ((ps, imports), s')) :
    List.Forall₂ (fun e p => PropertyOf r e.1 (shape.requires e.1) p)
      shape.properties.entries ps := by
  obtain ⟨found, hall, rfl, -⟩ := properties_eq_ok h
  rw [List.forall₂_map_right_iff]
  exact hall.imp fun e f ⟨t, t', hmade⟩ => property_spec hmade

/-! ## Classes -/

/-- A model is the class or the interface of a schema with some properties: the one of the
discriminator is marked. -/
structure ClassOf (r : Resolver) (key classname : String) (s : Schema) (vars : List Property)
    (m : Model) : Prop where
  name : m.name = key
  classname : m.classname = classname
  isEnum : m.isEnum = false
  isOneOfInterface : m.isOneOfInterface = r.isInterface s
  vars : m.vars = match m.discriminator with
    | none => vars
    | some d => vars.map fun p =>
      if p.baseName == d.propertyBaseName then { p with isDiscriminator := true } else p
  discriminator : m.discriminator.map (·.propertyBaseName) =
    s.keywords.discriminator.map (·.propertyName)

lemma propertyBaseName_of_discriminator {d : Discriminator} {m : ModelDiscriminator}
    (h : r.discriminator key schema d s = .ok (m, s')) : m.propertyBaseName = d.propertyName := by
  rw [discriminator] at h
  obtain ⟨propertyName, s₁, _, h⟩ := Lowering.bind_eq_ok_iff.1 h
  obtain ⟨explicit, s₂, _, h⟩ := Lowering.bind_eq_ok_iff.1 h
  obtain ⟨found, s₃, _, h⟩ := Lowering.bind_eq_ok_iff.1 h
  obtain ⟨propertyType, s₄, _, h⟩ := Lowering.bind_eq_ok_iff.1 h
  rw [← (Lowering.pure_eq_ok_iff.1 h).1]

/-- The class or the interface of a schema, with what was found of its alternatives, of its
properties and what they import, and of its discriminator. -/
def classWith (r : Resolver) (key classname : String) (s : Schema) (oneOf anyOf : List String)
    (vars : List Property) (imports : NameSet) (discriminator : Option ModelDiscriminator) : Model :=
  let o := r.setup.options
  let bare := r.bareModel key classname s
  { bare with
    isOneOfInterface := r.isInterface s
    oneOf
    anyOf
    vars := vars.map (·.markedBy discriminator)
    discriminator
    vendorExtensions :=
      if r.isInterface s then s.vendorExtensions.insert "x-is-one-of-interface" (.bool true)
      else s.vendorExtensions
    imports := (neverImported.foldl NameSet.erase imports).erase classname
    facets := { bare.facets with
      hasMappedModels := discriminator.any (·.hasMappedModels)
      hasMultipleMappedModels := discriminator.any (·.hasMultipleMappedModels)
      additionalTypeAnnotations :=
        if r.isInterface s then o.additionalOneOfTypeAnnotations
        else o.additionalModelTypeAnnotations } }

/-- **All that a class is made from.** -/
theorem classModel_eq_ok {m : Model}
    (h : r.classModel key (r.bareModel key classname schema) schema shape s = .ok (m, s')) :
    ∃ oneOf anyOf vars imports discriminator,
      (∃ t t', r.memberTypes schema.oneOf t = .ok (oneOf, t')) ∧
      (∃ t t', r.memberTypes schema.anyOf t = .ok (anyOf, t')) ∧
      (∃ t t', r.properties shape t = .ok ((vars, imports), t')) ∧
      Option.Rel (fun d found => ∃ t t', r.discriminator key schema d t = .ok (found, t'))
        schema.keywords.discriminator discriminator ∧
      m = r.classWith key classname schema oneOf anyOf vars imports discriminator := by
  rw [classModel] at h
  obtain ⟨oneOf, _, honeOf, h⟩ := Lowering.bind_eq_ok_iff.1 h
  obtain ⟨anyOf, _, hanyOf, h⟩ := Lowering.bind_eq_ok_iff.1 h
  obtain ⟨⟨vars, imports⟩, _, hvars, h⟩ := Lowering.bind_eq_ok_iff.1 h
  cases hd : schema.keywords.discriminator with
  | none =>
    simp only [hd, Lowering.bind_eq_ok_iff, Lowering.pure_eq_ok_iff] at h
    obtain ⟨_, _, ⟨rfl, -⟩, rfl, -⟩ := h
    refine ⟨oneOf, anyOf, vars, imports, none, ⟨_, _, honeOf⟩, ⟨_, _, hanyOf⟩, ⟨_, _, hvars⟩, .none,
      ?_⟩
    simp only [classWith, Property.markedBy, List.map_id']
    rfl
  | some d =>
    simp only [hd, Lowering.bind_eq_ok_iff, Lowering.pure_eq_ok_iff] at h
    obtain ⟨discriminator, _, hdiscriminator, _, _, ⟨rfl, -⟩, rfl, -⟩ := h
    exact ⟨oneOf, anyOf, vars, imports, some discriminator, ⟨_, _, honeOf⟩, ⟨_, _, hanyOf⟩,
      ⟨_, _, hvars⟩, .some ⟨_, _, hdiscriminator⟩, rfl⟩

/-- The model is that of a class. -/
lemma classOf_classWith {oneOf anyOf : List String} {vars : List Property} {imports : NameSet}
    {discriminator : Option ModelDiscriminator}
    (h : Option.Rel (fun d found => ∃ t t', r.discriminator key schema d t = .ok (found, t'))
      schema.keywords.discriminator discriminator) :
    ClassOf r key classname schema vars
      (r.classWith key classname schema oneOf anyOf vars imports discriminator) := by
  refine ⟨rfl, rfl, rfl, rfl, ?_, ?_⟩
  · cases discriminator with
    | none => exact List.map_id' vars
    | some d => rfl
  · change discriminator.map _ = _
    generalize schema.keywords.discriminator = declared at h
    cases h with
    | none => rfl
    | some hfound =>
      obtain ⟨_, _, hfound⟩ := hfound
      exact congrArg some (propertyBaseName_of_discriminator hfound)

/-! ## Enumerations -/

/-- The type that the constants of a model are named by: a scalar that the schema asks for, or the
type of its values. -/
def constantType (r : Resolver) (s : Schema) : String :=
  match s.scalarOverride? r.setup.dialect with
  | some o => o.dataType
  | none => r.setup.enumValueType s

/-- The enumeration of a schema, with the type and the constants that were found. -/
def enumWith (r : Resolver) (key classname : String) (s : Schema) (t : ResolvedType)
    (enumConstants : List EnumConstant) : Model :=
  let m := (r.bareModel key classname s).withType t
  { m with
    isEnum := true
    enumConstants
    defaultValue := s.keywords.defaultValue.bind fun v =>
      r.setup.names.constantName? (some v.plainText) (r.constantType s)
    enumDataType := some (r.constantType s)
    imports := m.imports.insert "Function"
    facets.additionalTypeAnnotations := r.setup.options.additionalEnumTypeAnnotations }

lemma enumModel_eq_ok {m : Model}
    (h : r.enumModel (r.bareModel key classname schema) schema s = .ok (m, s')) :
    ∃ type constants, (∃ t t', r.resolveSchema schema t = .ok (type, t')) ∧
      (∃ t t', r.setup.enumConstants schema (r.constantType schema) t = .ok (constants, t')) ∧
      m = r.enumWith key classname schema type constants := by
  rw [enumModel] at h
  obtain ⟨type, _, htype, h⟩ := Lowering.bind_eq_ok_iff.1 h
  obtain ⟨constants, _, hconstants, h⟩ := Lowering.bind_eq_ok_iff.1 h
  obtain ⟨rfl, -⟩ := Lowering.pure_eq_ok_iff.1 h
  exact ⟨type, constants, ⟨_, _, htype⟩, ⟨_, _, hconstants⟩, rfl⟩

/-! ## Parents -/

/-- The schema of a component, with aliases followed. -/
def SchemaAt (r : Resolver) (key : String) (s : Schema) : Prop :=
  ∃ last, r.components.schema (Reference.toSchema key) = .ok (last, s)

lemma SchemaAt.unique (h : r.SchemaAt key schema) (h' : r.SchemaAt key target) :
    schema = target := by
  obtain ⟨last, h⟩ := h
  obtain ⟨last', h'⟩ := h'
  exact congrArg Prod.snd (Except.ok.inj (h.symm.trans h'))

/-- A schema refers to the one that its model extends. -/
def HasParent (r : Resolver) (s : Schema) (key : String) (t : Schema) : Prop :=
  ∃ targets, r.partTargets s = .ok targets ∧ r.parentKey? targets = some key ∧ (key, t) ∈ targets

/-- The parent is one of the parts, and becomes a model. -/
lemma exists_of_parentKey? {targets : List (String × Schema)}
    (h : r.parentKey? targets = some key) :
    ∃ t, (key, t) ∈ targets ∧ r.isExtensible key = true := by
  suffices ∃ t, (key, t) ∈ targets.filter fun t => r.isExtensible t.1 by
    simpa only [List.mem_filter] using this
  rw [parentKey?] at h
  split at h
  · rename_i k t hfilter
    obtain rfl := Option.some.inj h
    exact ⟨t, hfilter ▸ List.mem_singleton_self _⟩
  · obtain ⟨⟨k, t⟩, hfound, rfl⟩ := Option.map_eq_some_iff.1 h
    exact ⟨t, List.mem_of_find?_eq_some hfound⟩

lemma HasParent.schemaAt (h : r.HasParent schema key target) : r.SchemaAt key target := by
  obtain ⟨targets, htargets, -, ht⟩ := h
  obtain ⟨path, -, hschema⟩ := exists_mem_right_of_forall₂ (forall₂_of_mapM_eq_ok htargets) ht
  exact ⟨key, Components.schema_toSchema hschema⟩

/-! ## Drafts -/

/-- **How a schema is drafted**: all that its draft is made from, for an enumeration and for a class
or an interface. -/
inductive Drafted (r : Resolver) (key classname : String) (s : Schema) : Draft → Prop
  | enum {type : ResolvedType} {constants : List EnumConstant} : s.isEnum = true →
    (∃ t t', r.resolveSchema s t = .ok (type, t')) →
    (∃ t t', r.setup.enumConstants s (r.constantType s) t = .ok (constants, t')) →
    Drafted r key classname s { model := r.enumWith key classname s type constants }
  | class {targets : List (String × Schema)} {oneOf anyOf : List String} {vars : List Property}
      {imports : NameSet} {discriminator : Option ModelDiscriminator} : s.isEnum = false →
    r.partTargets s = .ok targets →
    (∃ t t', r.memberTypes s.oneOf t = .ok (oneOf, t')) →
    (∃ t t', r.memberTypes s.anyOf t = .ok (anyOf, t')) →
    (∃ t t', r.properties (shapeBeside s targets (r.parentKey? targets)) t =
      .ok ((vars, imports), t')) →
    Option.Rel (fun d found => ∃ t t', r.discriminator key s d t = .ok (found, t'))
      s.keywords.discriminator discriminator →
    Drafted r key classname s {
      model := r.classWith key classname s oneOf anyOf vars imports discriminator
      parentKey := r.parentKey? targets }

theorem drafted_of_draft {d : Draft} (h : r.draft key classname schema s = .ok (d, s')) :
    r.Drafted key classname schema d := by
  rw [draft] at h
  split at h
  · rename_i henum
    obtain ⟨m, _, hm, h⟩ := Lowering.bind_eq_ok_iff.1 h
    obtain ⟨rfl, -⟩ := Lowering.pure_eq_ok_iff.1 h
    obtain ⟨type, constants, htype, hconstants, rfl⟩ := enumModel_eq_ok hm
    exact .enum henum htype hconstants
  · rename_i hclass
    obtain ⟨targets, _, htargets, h⟩ := Lowering.bind_eq_ok_iff.1 h
    obtain ⟨m, _, hm, h⟩ := Lowering.bind_eq_ok_iff.1 h
    obtain ⟨rfl, -⟩ := Lowering.pure_eq_ok_iff.1 h
    obtain ⟨oneOf, anyOf, vars, imports, discriminator, honeOf, hanyOf, hvars, hdiscriminator, rfl⟩ :=
      classModel_eq_ok hm
    exact .class (Bool.not_eq_true _ ▸ hclass) (Lowering.lift_eq_ok_iff.1 htargets).1 honeOf hanyOf
      hvars hdiscriminator

/-- What a draft has from the schema of its component, before it is linked to others: an enumeration
has no properties and no parent, and a class has the properties of its shape beside its parent. -/
inductive DraftOf (r : Resolver) (key classname : String) (s : Schema) : Draft → Prop
  | enum {m : Model} : s.isEnum = true → m.name = key → m.classname = classname → m.isEnum = true →
    m.isOneOfInterface = false → m.vars = [] → DraftOf r key classname s { model := m }
  | class {targets : List (String × Schema)} {vars : List Property} {m : Model} :
    s.isEnum = false → r.partTargets s = .ok targets →
    List.Forall₂
      (fun e p => PropertyOf r e.1 ((shapeBeside s targets (r.parentKey? targets)).requires e.1) p)
      (shapeBeside s targets (r.parentKey? targets)).properties.entries vars →
    ClassOf r key classname s vars m →
    DraftOf r key classname s { model := m, parentKey := r.parentKey? targets }

lemma DraftOf.name_eq {d : Draft} (h : DraftOf r key classname schema d) : d.model.name = key := by
  cases h with
  | enum _ hname => exact hname
  | «class» _ _ _ hclass => exact hclass.name

/-- The draft of a class has the properties of its shape beside its parent. -/
lemma DraftOf.exists_classOf {d : Draft} (h : DraftOf r key classname schema d)
    (hclass : schema.isEnum = false) : ∃ targets vars, r.partTargets schema = .ok targets ∧
      d.parentKey = r.parentKey? targets ∧
      List.Forall₂ (fun e p =>
          PropertyOf r e.1 ((shapeBeside schema targets (r.parentKey? targets)).requires e.1) p)
        (shapeBeside schema targets (r.parentKey? targets)).properties.entries vars ∧
      ClassOf r key classname schema vars d.model := by
  cases h with
  | enum henum =>
    rw [hclass] at henum
    cases henum
  | «class» _ htargets hvars hmodel => exact ⟨_, _, htargets, rfl, hvars, hmodel⟩

lemma DraftOf.vars_eq_nil {d : Draft} (h : DraftOf r key classname schema d)
    (henum : schema.isEnum = true) : d.model.vars = [] := by
  cases h with
  | enum _ _ _ _ _ hvars => exact hvars
  | «class» hclass =>
    rw [henum] at hclass
    cases hclass

/-- The parent of a draft is that of its schema, if this is one of a class. -/
lemma DraftOf.parentKey_eq_some_iff {d : Draft} {parent : String}
    (h : DraftOf r key classname schema d) :
    d.parentKey = some parent ↔ schema.isEnum = false ∧ ∃ t, r.HasParent schema parent t := by
  cases h with
  | enum henum => simp [henum]
  | «class» hclass htargets =>
    constructor
    · intro hparent
      obtain ⟨t, ht, -⟩ := exists_of_parentKey? hparent
      exact ⟨hclass, t, _, htargets, hparent, ht⟩
    · rintro ⟨-, t, targets, htargets', hparent, -⟩
      obtain rfl := Except.ok.inj (htargets.symm.trans htargets')
      exact hparent

lemma DraftOf.hasParent {d : Draft} {parent : String} (h : DraftOf r key classname schema d)
    (hparent : d.parentKey = some parent) : ∃ t, r.HasParent schema parent t :=
  (h.parentKey_eq_some_iff.1 hparent).2

lemma draft_spec {d : Draft} (h : r.draft key classname schema s = .ok (d, s')) :
    DraftOf r key classname schema d := by
  cases drafted_of_draft h with
  | enum henum => exact .enum henum rfl rfl rfl rfl rfl
  | «class» hclass htargets _ _ hvars hdiscriminator =>
    obtain ⟨_, _, hvars⟩ := hvars
    exact .class hclass htargets (properties_spec hvars) (classOf_classWith hdiscriminator)

/-- Every component that becomes a model is drafted once. -/
theorem exists_draft_of_drafts {ds : Drafts} (h : r.drafts s = .ok (ds, s')) :
    ds.keys.Nodup ∧ (∀ e ∈ r.models.entries, e.1 ∈ ds.keys) ∧
      ∀ key d, ds.find? key = some d → ∃ e ∈ r.models.entries, e.1 = key ∧
        ∃ schema, r.SchemaAt key schema ∧
          ∃ t t', r.draft key e.2.classname schema t = .ok (d, t') := by
  refine Lowering.foldlM_induction (P := fun done ds => ds.keys.Nodup ∧
    (∀ e ∈ done, e.1 ∈ ds.keys) ∧ ∀ key d, ds.find? key = some d →
      ∃ e ∈ r.models.entries, e.1 = key ∧ ∃ schema, r.SchemaAt key schema ∧
        ∃ t t', r.draft key e.2.classname schema t = .ok (d, t')) h ?_ ?_
  · refine ⟨List.nodup_nil, fun _ he => (List.not_mem_nil he).elim, fun _ _ hd => ?_⟩
    cases hd
  · rintro done ⟨key, entry⟩ hentry ds t ds' t' ⟨hnodup, hdone, hspec⟩ hstep
    obtain ⟨⟨last, schema⟩, t₁, hschema, hstep⟩ := Lowering.bind_eq_ok_iff.1 hstep
    obtain ⟨d, t₂, hd, hstep⟩ := Lowering.bind_eq_ok_iff.1 hstep
    obtain ⟨rfl, -⟩ := Lowering.pure_eq_ok_iff.1 hstep
    refine ⟨Table.nodup_keys_insert hnodup, fun e he => Table.mem_keys_insert.2 ?_, ?_⟩
    · rcases List.mem_append.1 he with he | he
      · exact .inr (hdone e he)
      · exact .inl (congrArg Prod.fst (List.mem_singleton.1 he))
    · intro k d' hk
      by_cases heq : k = key
      · subst heq
        rw [Table.find?_insert_self, Option.some.injEq] at hk
        subst hk
        exact ⟨_, hentry, rfl, schema, ⟨last, (Lowering.lift_eq_ok_iff.1 hschema).1⟩, _, _, hd⟩
      · rw [Table.find?_insert_of_ne _ _ heq] at hk
        exact hspec k d' hk

/-- **Every draft is that of a component schema** that becomes a model, and all of these have a
draft. -/
theorem drafts_spec {ds : Drafts} (h : r.drafts s = .ok (ds, s')) :
    ds.keys.Nodup ∧ (∀ e ∈ r.models.entries, e.1 ∈ ds.keys) ∧
      ∀ key d, ds.find? key = some d → ∃ e ∈ r.models.entries, e.1 = key ∧
        ∃ schema, r.SchemaAt key schema ∧ DraftOf r key e.2.classname schema d := by
  obtain ⟨hnodup, hkeys, hdrafts⟩ := exists_draft_of_drafts h
  refine ⟨hnodup, hkeys, fun key d hd => ?_⟩
  obtain ⟨e, he, hkey, schema, hschema, t, t', hdraft⟩ := hdrafts key d hd
  exact ⟨e, he, hkey, schema, hschema, draft_spec hdraft⟩

end Resolver

end ApiLowering
