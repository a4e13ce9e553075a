import ApiLowering.Proofs.Types.Spelling

/-!
# Resolved types

Whatever schemas refer to each other, there are only a few ways in which a type comes about: it is
that of a name or of a word, a container of another type, or another type of which a scalar has
taken the place. What is kept on each of these ways holds of all types that resolution gives.

So a type with items is a container, and the other way round. A container is spelled from its items,
unless a scalar has taken its place: then it is a container still, whose spelling does not say so.

## Main definitions

* `ResolvedType.ofWord`, `ResolvedType.arrayOf`, `ResolvedType.mapOf` — types of words, and
  containers that are not spelled yet.
* `ResolvedType.replaced` — a scalar in the place of a type.
* `Resolver.Resolved` — the types that resolution gives.
* `Setup.keyType` — the type of the keys of maps.
* `Setup.Encloses` — how a container is spelled over its items.
* `Setup.Shaped` — the shapes of types.

## Main results

* `Resolver.resolved_resolve` — all types that resolution gives come about in one of these ways.
* `Resolver.covers_propertyType` — the types of properties are covered by their imports.
* `Resolver.Resolved.shaped` — all types that resolution gives are shaped.
* `Resolver.shaped_propertyType` — so are the types of properties, with the names of enumerations.
-/

namespace ApiLowering

/-! ## Ways to a type -/

/-- The names that a mapped type is imported by. -/
def Setup.importsOf (setup : Setup) (typeName : String) : NameSet :=
  match TypeName.split? typeName with
  | some (simple, _) => .ofList [simple]
  | none => if setup.needsImport typeName then .ofList [typeName] else {}

/-- What is imported together with a type is that of the type, besides what was imported before. -/
lemma Setup.imports_eq_of_importType {setup : Setup} {typeName simple : String}
    {imports imports' : NameSet} {s s' : Session}
    (h : setup.importType typeName imports s = .ok ((simple, imports'), s')) :
    imports' = imports.union (setup.importsOf typeName) := by
  rw [importType] at h
  rw [importsOf]
  cases hsplit : TypeName.split? typeName with
  | some parts =>
    simp only [hsplit, Lowering.bind_eq_ok_iff, Lowering.pure_eq_ok_iff, Prod.mk.injEq] at h
    obtain ⟨_, _, -, ⟨-, rfl⟩, -⟩ := h
    rfl
  | none =>
    simp only [hsplit] at h
    split at h
    · rename_i hneeds
      obtain ⟨hout, -⟩ := Lowering.pure_eq_ok_iff.1 h
      rw [if_pos hneeds, ← (Prod.mk.inj hout).2]
      rfl
    · rename_i hneeds
      obtain ⟨hout, -⟩ := Lowering.pure_eq_ok_iff.1 h
      rw [if_neg hneeds, ← (Prod.mk.inj hout).2]
      rfl

lemma Setup.mem_importType {setup : Setup} {typeName simple name : String}
    {imports imports' : NameSet} {s s' : Session}
    (h : setup.importType typeName imports s = .ok ((simple, imports'), s')) :
    name ∈ imports' ↔ name ∈ imports ∨ name ∈ setup.importsOf typeName := by
  rw [imports_eq_of_importType h, NameSet.mem_union]

/-- A type that is imported alone imports what it needs. -/
lemma Setup.importsOf_of_importType {setup : Setup} {typeName simple : String} {imports : NameSet}
    {s s' : Session} (h : setup.importType typeName {} s = .ok ((simple, imports), s')) :
    imports = setup.importsOf typeName := by
  rw [imports_eq_of_importType h, importsOf]
  split
  · rfl
  · split <;> rfl

namespace ResolvedType

/-- The type of a word that is mapped to some type. -/
def ofWord (setup : Setup) (mapped openApiType : String) (flags : TypeFlags) (isOneOf : Bool) :
    ResolvedType where
  facts := {
    dataType := TypeName.simple mapped
    datatypeWithEnum := TypeName.simple mapped
    baseType := TypeName.simple mapped
    openApiType
    flags }
  boxedType := TypeName.simple mapped
  isOneOf
  imports := setup.importsOf mapped

/-- An array of some items, before it is spelled. -/
def arrayOf (container : String) (unique : Bool) (items : ResolvedType) : ResolvedType where
  facts := {
    openApiType := "array"
    containerType := some container
    isContainer := true
    isArray := true
    uniqueItems := unique
    baseType := items.facts.baseType
    complexType := items.facts.complexType }
  items := some items
  imports := (NameSet.ofList [container]).union items.imports

/-- A map to some values, before it is spelled. -/
def mapOf (container keyType : String) (values : ResolvedType) : ResolvedType where
  facts := {
    openApiType := "object"
    containerType := some container
    isContainer := true
    isMap := true
    baseType := values.facts.baseType
    complexType := values.facts.complexType }
  keyType := some keyType
  items := some values
  imports := (NameSet.ofList [container]).union values.imports

/-- The type with a scalar in its place. -/
def replaced (t : ResolvedType) (o : ScalarOverride) : ResolvedType :=
  { t with
    facts.dataType := o.dataType
    facts.datatypeWithEnum := o.dataType
    facts.baseType := o.baseType
    facts.flags := .ofScalar o.scalar o.isPrimitive
    boxedType := o.dataType
    imports := {} }

end ResolvedType

namespace Resolver

variable {r : Resolver} {s s' : Session} {t t' : ResolvedType} {schema : Schema}

/-- The types that resolution gives. -/
inductive Resolved (r : Resolver) : ResolvedType → Prop
  | named {key : String} {t : ResolvedType} : r.namedType? key = some t → Resolved r t
  | word {key mapped openApiType : String} {flags : TypeFlags} {isOneOf : Bool} :
    r.setup.mappedType key = .ok mapped →
    Resolved r (.ofWord r.setup mapped openApiType flags isOneOf)
  | array {container : String} {unique : Bool} {items : ResolvedType} :
    r.setup.mappedType (if unique then "set" else "array") = .ok container → Resolved r items →
    Resolved r (ResolvedType.arrayOf container unique items).rewrap
  | map {container keyType : String} {values : ResolvedType} :
    r.setup.mappedType "map" = .ok container → r.setup.mappedType "string" = .ok keyType →
    Resolved r values → Resolved r (ResolvedType.mapOf container keyType values).rewrap
  | replaced {schema : Schema} {t : ResolvedType} {o : ScalarOverride} :
    schema.scalarOverride? r.setup.dialect = some o → Resolved r t → Resolved r (t.replaced o)
  | enumerating {t : ResolvedType} {isInlineEnum : Bool} :
    (isInlineEnum = true → t.items = none) → Resolved r t → Resolved r { t with isInlineEnum }

/-! ## Resolution -/

lemma exists_eq_ofWord {key openApiType : String}
    (h : r.wordType key openApiType s = .ok (t, s')) :
    ∃ mapped, r.setup.mappedType key = .ok mapped ∧
      t = .ofWord r.setup mapped openApiType (.ofKey key) false := by
  rw [wordType] at h
  simp only [Lowering.bind_eq_ok_iff, Lowering.lift_eq_ok_iff, Lowering.pure_eq_ok_iff] at h
  obtain ⟨mapped, _, ⟨hmapped, -⟩, ⟨simple, imports⟩, _, himport, rfl, -⟩ := h
  refine ⟨mapped, hmapped, ?_⟩
  rw [Setup.importsOf_of_importType himport]
  rfl

lemma resolved_wordType {key openApiType : String}
    (h : r.wordType key openApiType s = .ok (t, s')) : r.Resolved t := by
  obtain ⟨mapped, hmapped, rfl⟩ := exists_eq_ofWord h
  exact .word hmapped

lemma resolved_textType {format : String} (h : r.textType format s = .ok (t, s')) :
    r.Resolved t := by
  rw [textType] at h
  simp only [Lowering.bind_eq_ok_iff, Lowering.pure_eq_ok_iff] at h
  obtain ⟨word, _, hword, rfl, -⟩ := h
  obtain ⟨mapped, hmapped, rfl⟩ := exists_eq_ofWord hword
  split
  · have hemail : r.Resolved (.ofWord r.setup mapped "string"
        { TypeFlags.ofKey (r.textKey format) with isEmail := true } false) := .word hmapped
    exact hemail
  · exact .word hmapped

lemma resolved_plainType (h : r.plainType schema s = .ok (t, s')) : r.Resolved t := by
  rw [plainType] at h
  cases hprimary : schema.primaryType with
  | none =>
    rw [hprimary] at h
    exact resolved_wordType h
  | some primary =>
    rw [hprimary] at h
    cases primary with
    | string => exact resolved_textType h
    | _ => exact resolved_wordType h

lemma resolved_arrayType {items : ResolvedType} (hitems : r.Resolved items)
    (h : r.arrayType schema items s = .ok (t, s')) : r.Resolved t := by
  rw [arrayType] at h
  simp only [Lowering.bind_eq_ok_iff, Lowering.lift_eq_ok_iff, Lowering.pure_eq_ok_iff] at h
  obtain ⟨container, _, ⟨hcontainer, -⟩, rfl, -⟩ := h
  exact .array hcontainer hitems

lemma resolved_mapType {values : ResolvedType} (hvalues : r.Resolved values)
    (h : r.mapType values s = .ok (t, s')) : r.Resolved t := by
  rw [mapType] at h
  simp only [Lowering.bind_eq_ok_iff, Lowering.lift_eq_ok_iff, Lowering.pure_eq_ok_iff] at h
  obtain ⟨container, _, ⟨hcontainer, -⟩, keyType, _, ⟨hkey, -⟩, rfl, -⟩ := h
  exact .map hcontainer hkey hvalues

lemma resolved_itemsType {lookup : String → Lowering ResolvedType} {items : Option SchemaRef}
    (hitems : ∀ ref ∈ items, ∀ s t s', r.typeOf lookup ref s = .ok (t, s') → r.Resolved t)
    (h : r.itemsType lookup items s = .ok (t, s')) : r.Resolved t := by
  cases items with
  | none =>
    rw [itemsType] at h
    exact resolved_wordType h
  | some ref =>
    rw [itemsType] at h
    exact hitems ref rfl s t s' h

lemma resolved_valuesType {lookup : String → Lowering ResolvedType}
    {additional : Option (Additional SchemaRef)}
    (hvalues : ∀ ref, additional = some (.values ref) → ∀ s t s',
      r.typeOf lookup ref s = .ok (t, s') → r.Resolved t)
    (h : r.valuesType lookup additional s = .ok (t, s')) : r.Resolved t := by
  rcases additional with - | ⟨- | -⟩ | ⟨ref⟩ <;> simp only [valuesType] at h
  · exact resolved_wordType h
  · exact resolved_wordType h
  · obtain ⟨values, _, hword, h⟩ := Lowering.bind_eq_ok_iff.1 h
    exact resolved_mapType (resolved_wordType hword) h
  · obtain ⟨values, _, href, h⟩ := Lowering.bind_eq_ok_iff.1 h
    exact resolved_mapType (hvalues ref rfl _ _ _ href) h

/-- What a schema asks for in the place of its type, and whether it enumerates the values. -/
lemma overridden_spec (h : r.overridden schema t s = .ok (t', s')) :
    ∃ own, t' = { own with isInlineEnum := schema.isEnum && t.items.isNone } ∧
      ((∃ o, schema.scalarOverride? r.setup.dialect = some o ∧ own = t.replaced o) ∨
        schema.scalarOverride? r.setup.dialect = none ∧ own = t) := by
  rw [overridden] at h
  cases hscalar : schema.scalarOverride? r.setup.dialect with
  | some o =>
    simp only [hscalar, Lowering.bind_eq_ok_iff, Lowering.pure_eq_ok_iff] at h
    obtain ⟨_, _, ⟨rfl, -⟩, rfl, -⟩ := h
    exact ⟨t.replaced o, rfl, .inl ⟨o, rfl, rfl⟩⟩
  | none =>
    -- a word that is no scalar is warned of, and leaves the type as it is
    cases hword : schema.extensionText? "x-type" with
    | some word =>
      simp only [hscalar, hword, Lowering.bind_eq_ok_iff, Lowering.pure_eq_ok_iff] at h
      obtain ⟨_, _, -, _, _, ⟨rfl, -⟩, rfl, -⟩ := h
      exact ⟨t, rfl, .inr ⟨rfl, rfl⟩⟩
    | none =>
      simp only [hscalar, hword, Lowering.bind_eq_ok_iff, Lowering.pure_eq_ok_iff] at h
      obtain ⟨_, _, ⟨rfl, -⟩, rfl, -⟩ := h
      exact ⟨t, rfl, .inr ⟨rfl, rfl⟩⟩

lemma resolved_overridden (ht : r.Resolved t) (h : r.overridden schema t s = .ok (t', s')) :
    r.Resolved t' := by
  obtain ⟨own, rfl, ⟨o, ho, rfl⟩ | ⟨-, rfl⟩⟩ := overridden_spec h
  · refine .enumerating (fun henum => ?_) (.replaced ho ht)
    exact Option.isNone_iff_eq_none.1 (Bool.and_eq_true _ _ ▸ henum).2
  · refine .enumerating (fun henum => ?_) ht
    exact Option.isNone_iff_eq_none.1 (Bool.and_eq_true _ _ ▸ henum).2

/-- The type of a schema, if those of its children and of references are resolved. -/
lemma resolved_schemaType {lookup : String → Lowering ResolvedType}
    (hlookup : ∀ path s t s', lookup path s = .ok (t, s') → r.Resolved t)
    (hchildren : ∀ ref ∈ schema.children, ∀ s t s', r.typeOf lookup ref s = .ok (t, s') →
      r.Resolved t)
    (h : r.schemaType lookup schema s = .ok (t, s')) : r.Resolved t := by
  rw [schemaType_eq] at h
  obtain ⟨own, _, hown, h⟩ := Lowering.bind_eq_ok_iff.1 h
  refine resolved_overridden ?_ h
  cases hsole : soleReference? schema with
  | some path =>
    rw [hsole] at hown
    exact hlookup path _ _ _ hown
  | none =>
    simp only [hsole] at hown
    split_ifs at hown
    · obtain ⟨word, _, hword, hown⟩ := Lowering.bind_eq_ok_iff.1 hown
      obtain ⟨rfl, -⟩ := Lowering.pure_eq_ok_iff.1 hown
      obtain ⟨mapped, hmapped, rfl⟩ := exists_eq_ofWord hword
      have hany : r.Resolved (.ofWord r.setup mapped "object" (.ofKey "AnyType")
          (!schema.oneOf.isEmpty)) := .word hmapped
      exact hany
    · exact resolved_wordType hown
    · obtain ⟨items, _, hitems, hown⟩ := Lowering.bind_eq_ok_iff.1 hown
      refine resolved_arrayType (resolved_itemsType (fun ref href => hchildren ref ?_) hitems) hown
      exact Schema.mem_children.2 (.inr (.inl href))
    · refine resolved_valuesType (fun ref href => hchildren ref ?_) hown
      exact Schema.mem_children.2 (.inr (.inr (.inl href)))
    · exact resolved_plainType hown

lemma resolved_typeOf {lookup : String → Lowering ResolvedType}
    (hlookup : ∀ path s t s', lookup path s = .ok (t, s') → r.Resolved t) (ref : SchemaRef) :
    ∀ s t s', r.typeOf lookup ref s = .ok (t, s') → r.Resolved t := by
  induction ref using Schema.ref_induction with
  | ref path =>
    intro s t s' h
    rw [typeOf] at h
    exact hlookup path s t s' h
  | inline schema ih =>
    intro s t s' h
    rw [typeOf] at h
    exact resolved_schemaType hlookup ih h

/-- A reference has the type of a name, or that of the schema that it leads to. -/
lemma pathType_spec {depth : Nat} {path : String}
    (h : r.pathType (depth + 1) path s = .ok (t, s')) :
    ∃ key, Reference.keyIn "schemas" path = .ok key ∧ (r.namedType? key = some t ∨
      r.namedType? key = none ∧ ∃ last target, r.components.schema path = .ok (last, target) ∧
        (r.namedType? last = some t ∨
          r.namedType? last = none ∧ r.schemaType (r.pathType depth) target s = .ok (t, s'))) := by
  rw [pathType] at h
  simp only [Lowering.bind_eq_ok_iff, Lowering.lift_eq_ok_iff] at h
  obtain ⟨key, _, ⟨hkey, rfl⟩, h⟩ := h
  refine ⟨key, hkey, ?_⟩
  cases hnamed : r.namedType? key with
  | some named =>
    simp only [hnamed, Lowering.pure_eq_ok_iff] at h
    exact .inl (congrArg some h.1)
  | none =>
    simp only [hnamed, Lowering.bind_eq_ok_iff, Lowering.lift_eq_ok_iff] at h
    obtain ⟨⟨last, target⟩, _, ⟨htarget, rfl⟩, h⟩ := h
    refine .inr ⟨rfl, last, target, htarget, ?_⟩
    cases hnamed' : r.namedType? last with
    | some named =>
      simp only [hnamed', Lowering.pure_eq_ok_iff] at h
      exact .inl (congrArg some h.1)
    | none =>
      simp only [hnamed'] at h
      exact .inr ⟨rfl, h⟩

/-- The types of references are resolved, however many of them are nested. -/
lemma resolved_pathType (depth : Nat) :
    ∀ path s t s', r.pathType depth path s = .ok (t, s') → r.Resolved t := by
  induction depth with
  | zero =>
    intro path s t s' h
    cases h
  | succ depth ih =>
    intro path s t s' h
    obtain ⟨key, -, hnamed | ⟨-, last, target, -, hnamed | ⟨-, htarget⟩⟩⟩ := pathType_spec h
    · exact .named hnamed
    · exact .named hnamed
    · exact resolved_schemaType ih (fun ref _ => resolved_typeOf ih ref) htarget

/-- **All types that resolution gives** come about in one of a few ways. -/
theorem resolved_resolve {ref : SchemaRef} (h : r.resolve ref s = .ok (t, s')) : r.Resolved t :=
  resolved_typeOf (resolved_pathType r.depth) ref s t s' h

/-- The type of a property is what its schema is resolved to. If this enumerates values, it goes by
the name of the enumeration. -/
lemma propertyType_cases {name : String} {ref : SchemaRef}
    (h : r.propertyType name ref s = .ok (t, s')) : ∃ own, r.resolve ref s = .ok (own, s') ∧
      (own.innermost.isInlineEnum = true ∧ t = own.setEnumName (Setup.enumName name) ∨
        own.innermost.isInlineEnum = false ∧ t = own) := by
  rw [propertyType] at h
  obtain ⟨own, _, hown, h⟩ := Lowering.bind_eq_ok_iff.1 h
  obtain ⟨rfl, rfl⟩ := Lowering.pure_eq_ok_iff.1 h
  refine ⟨own, hown, ?_⟩
  cases henum : own.innermost.isInlineEnum with
  | true => exact .inl ⟨rfl, if_pos rfl⟩
  | false => exact .inr ⟨rfl, if_neg Bool.false_ne_true⟩

end Resolver

/-! ## Spelling -/

/-- A mapped type is imported by its simple name, if it has to be. -/
lemma Setup.simple_mem_importsOf {setup : Setup} {typeName : String}
    (h : setup.needsImport typeName = true) :
    TypeName.simple typeName ∈ setup.importsOf typeName := by
  rw [importsOf, TypeName.simple]
  cases TypeName.split? typeName with
  | some parts => exact NameSet.mem_ofList.2 (List.mem_singleton_self _)
  | none =>
    rw [h]
    exact NameSet.mem_ofList.2 (List.mem_singleton_self _)

namespace Resolver

variable {r : Resolver} {l : Language} {s s' : Session} {t : ResolvedType}

/-- **All types that resolution gives are covered by their imports.** A scalar that a schema asks
for needs none. -/
theorem Resolved.covers (hdialect : r.setup.dialect = l.dialect) (h : r.Resolved t) :
    r.setup.Covers t := by
  induction h with
  | named hnamed =>
    obtain ⟨_, -, rfl⟩ | ⟨_, -, rfl⟩ := namedType?_cases hnamed
    · exact ⟨_, .named rfl rfl, fun name hname => NameSet.mem_ofList.2 hname⟩
    · exact ⟨_, .named rfl rfl, fun name hname => NameSet.mem_ofList.2 hname⟩
  | word hmapped =>
    refine ⟨_, .word rfl rfl hmapped rfl, fun name hname => ?_⟩
    split at hname
    · rename_i hneeds
      rw [List.mem_singleton.1 hname]
      exact Setup.simple_mem_importsOf hneeds
    · cases hname
  | array _ _ ih => exact .rewrap ih ⟨rfl, rfl, rfl⟩
  | map _ _ _ ih => exact .rewrap ih ⟨rfl, rfl, rfl⟩
  | @replaced schema t o ho =>
    refine ⟨[], .scalar rfl ?_, fun _ hname => (List.not_mem_nil hname).elim⟩
    have hbuiltin : r.setup.dialect.isBuiltin o.dataType = true := by
      rw [Schema.dataType_of_scalarOverride? ho, hdialect, l.isBuiltin_scalar]
    simp [Setup.needsImport, ResolvedType.replaced, hbuiltin]
  | enumerating _ _ ih =>
    obtain ⟨names, hspells, himports⟩ := ih
    exact ⟨names, hspells.withEnum _, himports⟩

/-- **The types of properties are covered by their imports.** -/
theorem covers_propertyType (hdialect : r.setup.dialect = l.dialect) {name : String}
    {ref : SchemaRef} (h : r.propertyType name ref s = .ok (t, s')) : r.setup.Covers t := by
  obtain ⟨own, hown, ⟨henum, rfl⟩ | ⟨-, rfl⟩⟩ := propertyType_cases h
  · obtain ⟨names, hspells, himports⟩ := (resolved_resolve hown).covers hdialect
    exact ⟨names, hspells.setEnumName henum, own.imports_setEnumName _ ▸ himports⟩
  · exact (resolved_resolve hown).covers hdialect

end Resolver

/-! ## Shapes -/

/-- Only the keys of maps are spelled. -/
lemma ResolvedType.spell_congr {facts : TypeFacts} {keyType keyType' : Option String}
    {container inner : String} (h : facts.isMap = true → keyType = keyType') :
    spell facts keyType container inner = spell facts keyType' container inner := by
  cases hmap : facts.isMap with
  | true => rw [h hmap]
  | false => simp only [spell, hmap, Bool.false_eq_true, if_false]

namespace Setup

/-- The type of the keys of maps. -/
def keyType (setup : Setup) : String :=
  match setup.mappedType "string" with
  | .ok t => t
  | .error _ => "String"

lemma keyType_eq {setup : Setup} {t : String} (h : setup.mappedType "string" = .ok t) :
    setup.keyType = t := by
  rw [keyType, h]

/-! ## Containers -/

/-- How a container is spelled over its items: from their spelling, or as a scalar. -/
inductive Encloses (setup : Setup) (facts inner : TypeFacts) : Prop
  | spelled {container : String} : facts.containerType = some container →
    facts.dataType = ResolvedType.spell facts setup.keyType container inner.dataType →
    facts.datatypeWithEnum =
      ResolvedType.spell facts setup.keyType container inner.datatypeWithEnum →
    Encloses setup facts inner
  | replaced {container : String} {scalar : Primitive} : facts.containerType = some container →
    facts.dataType = (setup.dialect.scalar scalar).boxed →
    facts.datatypeWithEnum = (setup.dialect.scalar scalar).boxed → Encloses setup facts inner

variable {setup : Setup} {t inner : ResolvedType}

lemma Encloses.exists_containerType {facts inner : TypeFacts} (h : setup.Encloses facts inner) :
    ∃ container, facts.containerType = some container := by
  cases h with
  | spelled hcontainer => exact ⟨_, hcontainer⟩
  | replaced hcontainer => exact ⟨_, hcontainer⟩

/-- The shapes of types: a type without items is no container, and one with items is. -/
inductive Shaped (setup : Setup) : ResolvedType → Prop
  | plain {t : ResolvedType} : t.facts.isContainer = false → t.items = none → Shaped setup t
  | container {t inner : ResolvedType} : t.items = some inner → t.facts.isContainer = true →
    (t.facts.isMap = true → t.keyType = some setup.keyType) → setup.Encloses t.facts inner.facts →
    Shaped setup inner → Shaped setup t

/-- A container that is spelled anew is spelled from its items. -/
lemma Shaped.rewrap {container : String} (hitems : t.items = some inner)
    (hcontainer : t.facts.containerType = some container) (hflag : t.facts.isContainer = true)
    (hkey : t.facts.isMap = true → t.keyType = some setup.keyType) (hinner : setup.Shaped inner) :
    setup.Shaped t.rewrap := by
  have hspell {spelling : String} : ResolvedType.spell t.facts t.keyType container spelling =
      ResolvedType.spell t.facts (some setup.keyType) container spelling :=
    ResolvedType.spell_congr hkey
  simp only [ResolvedType.rewrap, hcontainer, hitems]
  exact .container rfl hflag hkey (.spelled rfl hspell hspell) hinner

/-- The name of an enumeration leaves the shape alone. -/
lemma Shaped.setEnumName (h : setup.Shaped t) (enumName : String) :
    setup.Shaped (t.setEnumName enumName) := by
  induction h with
  | plain hflag hitems =>
    rw [ResolvedType.setEnumName_of_no_items hitems]
    exact .plain hflag hitems
  | container hitems hflag hkey hencloses _ ih =>
    obtain ⟨container, hcontainer⟩ := hencloses.exists_containerType
    rw [ResolvedType.setEnumName_of_items hitems]
    exact .rewrap rfl hcontainer hflag hkey ih

end Setup

namespace Resolver

variable {r : Resolver} {s s' : Session} {t : ResolvedType}

/-- **All types that resolution gives are shaped.** -/
theorem Resolved.shaped (h : r.Resolved t) : r.setup.Shaped t := by
  induction h with
  | named hnamed =>
    obtain ⟨_, -, rfl⟩ | ⟨_, -, rfl⟩ := namedType?_cases hnamed
    · exact .plain rfl rfl
    · exact .plain rfl rfl
  | word => exact .plain rfl rfl
  | array _ _ ih =>
    exact .rewrap rfl rfl rfl (fun hmap => (Bool.false_ne_true hmap).elim) ih
  | map _ hkey _ ih =>
    exact .rewrap rfl rfl rfl (fun _ => congrArg some (Setup.keyType_eq hkey).symm) ih
  | @replaced schema t o ho _ ih =>
    cases ih with
    | plain hflag hitems => exact .plain hflag hitems
    | container hitems hflag hkey hencloses hinner =>
      obtain ⟨container, hcontainer⟩ := hencloses.exists_containerType
      have hscalar := Schema.dataType_of_scalarOverride? ho
      exact .container hitems hflag hkey (.replaced hcontainer hscalar hscalar) hinner
  | enumerating _ _ ih =>
    cases ih with
    | plain hflag hitems => exact .plain hflag hitems
    | container hitems hflag hkey hencloses hinner =>
      exact .container hitems hflag hkey hencloses hinner

/-- Arrays are containers. -/
lemma Resolved.isContainer_of_isArray (h : r.Resolved t) (harray : t.facts.isArray = true) :
    t.facts.isContainer = true := by
  induction h with
  | named hnamed =>
    obtain ⟨_, -, rfl⟩ | ⟨_, -, rfl⟩ := namedType?_cases hnamed
    · exact absurd harray Bool.false_ne_true
    · exact absurd harray Bool.false_ne_true
  | word => exact absurd harray Bool.false_ne_true
  | array => exact ResolvedType.isContainer_rewrap
  | map => exact ResolvedType.isContainer_rewrap
  | replaced _ _ ih => exact ih harray
  | enumerating _ _ ih => exact ih harray

lemma isContainer_of_propertyType {name : String} {ref : SchemaRef}
    (h : r.propertyType name ref s = .ok (t, s')) (harray : t.facts.isArray = true) :
    t.facts.isContainer = true := by
  obtain ⟨own, hown, ⟨-, rfl⟩ | ⟨-, rfl⟩⟩ := propertyType_cases h
  · -- the name of an enumeration leaves both flags alone
    rw [ResolvedType.isArray_setEnumName] at harray
    rw [ResolvedType.isContainer_setEnumName]
    exact (resolved_resolve hown).isContainer_of_isArray harray
  · exact (resolved_resolve hown).isContainer_of_isArray harray

/-- **The types of properties are shaped.** -/
theorem shaped_propertyType {name : String} {ref : SchemaRef}
    (h : r.propertyType name ref s = .ok (t, s')) : r.setup.Shaped t := by
  obtain ⟨own, hown, ⟨-, rfl⟩ | ⟨-, rfl⟩⟩ := propertyType_cases h
  · exact (resolved_resolve hown).shaped.setEnumName _
  · exact (resolved_resolve hown).shaped

end Resolver

end ApiLowering
