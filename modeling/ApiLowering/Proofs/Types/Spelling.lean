import ApiLowering.Dialect.Kotlin
import ApiLowering.Models.Property
import ApiLowering.Proofs.Run.Steps
import ApiLowering.Proofs.Schema.Basic

/-!
# Spelled types

A data type is spelled from the names of containers, classes and mapped types. Those of them that
have to be imported should be among the imports of the type. The keys of maps are not looked at:
nothing imports their type.

## Main definitions

* `Setup.Spells` — the names that a data type is spelled from, as far as they have to be imported.
* `Setup.Covers` — the imports of a type have these names.
* `ResolvedType.ofMapped`, `ResolvedType.ofClass` — the types that go by a name.

## Main results

* `Language.isBuiltin_scalar` — scalars are built in.
* `Setup.Spells.setEnumName` — an enumeration in the innermost items leaves the names alone.
* `Setup.Covers.rewrap` — a container is covered if its items are.
-/

namespace ApiLowering

/-! ## Sets of names -/

namespace NameSet

variable {name other : String}

/-- The members of the set of a list are those of the list. -/
@[simp] lemma mem_ofList {names : List String} : name ∈ ofList names ↔ name ∈ names := by
  rw [ofList, mem_insertAll, or_iff_right_iff_imp]
  exact fun h => (List.not_mem_nil h).elim

/-- The members of a set without a name are the others. -/
@[simp] lemma mem_erase {s : NameSet} : name ∈ s.erase other ↔ name ∈ s ∧ name ≠ other := by
  simp only [mem_def, erase, List.mem_filter, bne_iff_ne]

end NameSet

/-! ## Items -/

namespace ResolvedType

/-- **Induction from the innermost items outwards.** -/
@[elab_as_elim]
theorem items_induction {motive : ResolvedType → Prop}
    (innermost : ∀ t, t.items = none → motive t)
    (container : ∀ t inner, t.items = some inner → motive inner → motive t) : ∀ t, motive t
  | ⟨_, _, _, _, some inner, _, _⟩ =>
    container _ inner rfl (items_induction innermost container inner)
  | ⟨_, _, _, _, none, _, _⟩ => innermost _ rfl

variable {t inner : ResolvedType} {enumName : String}

lemma innermost_of_items (h : t.items = some inner) : t.innermost = inner.innermost := by
  cases t
  cases h
  rw [innermost]

lemma innermost_of_no_items (h : t.items = none) : t.innermost = t := by
  cases t
  cases h
  rw [innermost]

lemma setEnumName_of_items (h : t.items = some inner) :
    t.setEnumName enumName = { t with items := some (inner.setEnumName enumName) }.rewrap := by
  cases t
  cases h
  rw [setEnumName]

lemma setEnumName_of_no_items (h : t.items = none) :
    t.setEnumName enumName = { t with facts.datatypeWithEnum := enumName } := by
  cases t
  cases h
  rw [setEnumName]

/-- A container is spelled from its items. -/
lemma dataType_rewrap {container : String} (hcontainer : t.facts.containerType = some container)
    (hitems : t.items = some inner) : t.rewrap.facts.dataType =
      spell t.rewrap.facts t.rewrap.keyType container inner.facts.dataType := by
  simp only [rewrap, hcontainer, hitems, spell]

/-- Containers follow their items in nothing but the spelling. -/
@[simp] lemma imports_rewrap : t.rewrap.imports = t.imports := by
  rw [rewrap]
  split <;> rfl

@[simp] lemma items_rewrap : t.rewrap.items = t.items := by
  rw [rewrap]
  split <;> rfl

@[simp] lemma containerType_rewrap : t.rewrap.facts.containerType = t.facts.containerType := by
  rw [rewrap]
  split <;> rfl

@[simp] lemma flags_rewrap : t.rewrap.facts.flags = t.facts.flags := by
  rw [rewrap]
  split <;> rfl

@[simp] lemma isArray_rewrap : t.rewrap.facts.isArray = t.facts.isArray := by
  rw [rewrap]
  split <;> rfl

@[simp] lemma isContainer_rewrap : t.rewrap.facts.isContainer = t.facts.isContainer := by
  rw [rewrap]
  split <;> rfl

@[simp] lemma imports_setEnumName (t : ResolvedType) (enumName : String) :
    (t.setEnumName enumName).imports = t.imports := by
  cases hitems : t.items with
  | none => rw [setEnumName_of_no_items hitems]
  | some inner => rw [setEnumName_of_items hitems, imports_rewrap]

@[simp] lemma isArray_setEnumName (t : ResolvedType) (enumName : String) :
    (t.setEnumName enumName).facts.isArray = t.facts.isArray := by
  cases hitems : t.items with
  | none => rw [setEnumName_of_no_items hitems]
  | some inner => rw [setEnumName_of_items hitems, isArray_rewrap]

@[simp] lemma isContainer_setEnumName (t : ResolvedType) (enumName : String) :
    (t.setEnumName enumName).facts.isContainer = t.facts.isContainer := by
  cases hitems : t.items with
  | none => rw [setEnumName_of_no_items hitems]
  | some inner => rw [setEnumName_of_items hitems, isContainer_rewrap]

lemma isInlineEnum_innermost_setEnumName (t : ResolvedType) (enumName : String) :
    (t.setEnumName enumName).innermost.isInlineEnum = t.innermost.isInlineEnum := by
  induction t using items_induction with
  | innermost t hitems =>
    have hnamed : ({ t with facts.datatypeWithEnum := enumName } : ResolvedType).innermost =
        { t with facts.datatypeWithEnum := enumName } := innermost_of_no_items hitems
    rw [setEnumName_of_no_items hitems, hnamed, innermost_of_no_items hitems]
  | container t inner hitems ih =>
    have hnamed : (t.setEnumName enumName).items = some (inner.setEnumName enumName) := by
      rw [setEnumName_of_items hitems, items_rewrap]
    rw [innermost_of_items hitems, innermost_of_items hnamed, ih]

end ResolvedType

/-! ## Names -/

namespace Setup

variable {setup : Setup} {t inner : ResolvedType} {names : List String} {enumName : String}

/-- The names that a data type is spelled from, as far as they have to be imported: containers,
classes, and mapped types that are not built in. The keys of maps are left out. A scalar that a
schema asks for is none of these. If it asks for one in the place of a container of enumerated
values, the data type is spelled from the items after all, and its names are left out as well. -/
inductive Spells (setup : Setup) : ResolvedType → List String → Prop
  | container {t inner : ResolvedType} {container : String} {names : List String} :
    t.facts.containerType = some container → t.items = some inner →
    t.facts.dataType = ResolvedType.spell t.facts t.keyType container inner.facts.dataType →
    Spells setup inner names → Spells setup t (container :: names)
  | named {t : ResolvedType} : t.items = none → t.facts.complexType = some t.facts.dataType →
    Spells setup t [t.facts.dataType]
  | word {t : ResolvedType} {key mapped : String} : t.items = none →
    t.facts.complexType = none → setup.mappedType key = .ok mapped →
    t.facts.dataType = TypeName.simple mapped →
    Spells setup t (if setup.needsImport mapped then [t.facts.dataType] else [])
  | scalar {t : ResolvedType} {scalar : Primitive} {isPrimitive : Bool} :
    t.facts.flags = .ofScalar scalar isPrimitive →
    setup.needsImport t.facts.dataType = false → Spells setup t []
  | enumerated {t inner : ResolvedType} {scalar : Primitive} {isPrimitive : Bool} :
    t.facts.flags = .ofScalar scalar isPrimitive → t.items = some inner →
    inner.innermost.isInlineEnum = true → Spells setup t []

/-- The imports of a type have the names that it is spelled from. -/
def Covers (setup : Setup) (t : ResolvedType) : Prop :=
  ∃ names, setup.Spells t names ∧ ∀ name ∈ names, name ∈ t.imports

/-- A container that follows its items is spelled from its name and theirs. -/
lemma Spells.rewrap {container : String} (hcontainer : t.facts.containerType = some container)
    (hitems : t.items = some inner) (h : setup.Spells inner names) :
    setup.Spells t.rewrap (container :: names) :=
  .container (ResolvedType.containerType_rewrap.trans hcontainer)
    (ResolvedType.items_rewrap.trans hitems) (ResolvedType.dataType_rewrap hcontainer hitems) h

/-- A container is covered if its items are. -/
lemma Covers.rewrap {container : String} (hinner : setup.Covers inner)
    (ht : t.facts.containerType = some container ∧ t.items = some inner ∧
      t.imports = (NameSet.ofList [container]).union inner.imports) : setup.Covers t.rewrap := by
  obtain ⟨names, hspells, hnames⟩ := hinner
  refine ⟨container :: names, .rewrap ht.1 ht.2.1 hspells, fun name hname => ?_⟩
  rw [ResolvedType.imports_rewrap, ht.2.2, NameSet.mem_union, NameSet.mem_ofList,
    List.mem_singleton]
  exact (List.mem_cons.1 hname).imp_right (hnames name)

/-- It does not matter for the names whether the values are enumerated here. -/
lemma Spells.withEnum (h : setup.Spells t names) (isInlineEnum : Bool) :
    setup.Spells { t with isInlineEnum } names := by
  cases h with
  | container hcontainer hitems hspelled hinner =>
    exact .container hcontainer hitems hspelled hinner
  | named hitems hclass => exact .named hitems hclass
  | word hitems hclass hkey hmapped => exact .word hitems hclass hkey hmapped
  | scalar hflags hbuiltin => exact .scalar hflags hbuiltin
  | enumerated hflags hitems henum => exact .enumerated hflags hitems henum

lemma Spells.enumerated_setEnumName {scalar : Primitive} {isPrimitive : Bool}
    (hflags : t.facts.flags = .ofScalar scalar isPrimitive) (hitems : t.items = some inner)
    (henum : inner.innermost.isInlineEnum = true) : setup.Spells (t.setEnumName enumName) [] := by
  rw [ResolvedType.setEnumName_of_items hitems]
  exact .enumerated (ResolvedType.flags_rewrap.trans hflags) ResolvedType.items_rewrap
    ((inner.isInlineEnum_innermost_setEnumName enumName).trans henum)

/-- An enumeration in the innermost items leaves the names alone. -/
theorem Spells.setEnumName (h : setup.Spells t names) (henum : t.innermost.isInlineEnum = true) :
    setup.Spells (t.setEnumName enumName) names := by
  induction h with
  | container hcontainer hitems _ _ ih =>
    rw [ResolvedType.innermost_of_items hitems] at henum
    rw [ResolvedType.setEnumName_of_items hitems]
    exact .rewrap hcontainer rfl (ih henum)
  | named hitems hclass =>
    rw [ResolvedType.setEnumName_of_no_items hitems]
    exact .named hitems hclass
  | word hitems hclass hkey hmapped =>
    rw [ResolvedType.setEnumName_of_no_items hitems]
    exact .word hitems hclass hkey hmapped
  | @scalar t _ _ hflags hbuiltin =>
    cases hitems : t.items with
    | none =>
      rw [ResolvedType.setEnumName_of_no_items hitems]
      exact .scalar hflags hbuiltin
    | some inner =>
      rw [ResolvedType.innermost_of_items hitems] at henum
      exact .enumerated_setEnumName hflags hitems henum
  | enumerated hflags hitems hbelow => exact .enumerated_setEnumName hflags hitems hbelow

end Setup

/-! ## Scalars -/

/-- **The scalars that a schema can ask for are built in.** -/
theorem Language.isBuiltin_scalar (l : Language) (p : Primitive) :
    l.dialect.isBuiltin (l.dialect.scalar p).boxed = true := by
  cases l <;> cases p <;> decide

lemma Schema.dataType_of_scalarOverride? {s : Schema} {d : Dialect} {o : ScalarOverride}
    (h : s.scalarOverride? d = some o) : o.dataType = (d.scalar o.scalar).boxed := by
  rw [scalarOverride?] at h
  split at h
  · split at h
    · rw [← Option.some.inj h]
    · split at h
      · rw [← Option.some.inj h]
      · cases h
  · obtain ⟨scalar, -, rfl⟩ := Option.map_eq_some_iff.1 h
    rfl

/-! ## Resolution -/

/-- The type of a schema that is mapped to an existing class. -/
def ResolvedType.ofMapped (mapped : String) : ResolvedType :=
  { named (TypeName.simple mapped) "object" with
    facts.complexType := some (TypeName.simple mapped)
    imports := .ofList [TypeName.simple mapped] }

/-- The type of a model. -/
def ResolvedType.ofClass (entry : ModelEntry) : ResolvedType :=
  { named entry.classname "object" with
    facts.isModel := !entry.isEnum
    facts.isEnumRef := entry.isEnum
    facts.complexType := some entry.classname
    imports := .ofList [entry.classname] }

namespace Resolver

variable {r : Resolver} {t : ResolvedType}

/-- A type by its name is that of a mapped schema, or else that of a class. -/
lemma namedType?_cases {key : String} (h : r.namedType? key = some t) :
    (∃ mapped, r.setup.options.schemaMapping.find? key = some mapped ∧ t = .ofMapped mapped) ∨
      ∃ entry, r.models.find? key = some entry ∧ t = .ofClass entry := by
  rw [namedType?] at h
  split at h
  · rename_i mapped hmapped
    exact .inl ⟨mapped, hmapped, (Option.some.inj h).symm⟩
  · rename_i entry _ hentry
    exact .inr ⟨entry, hentry, (Option.some.inj h).symm⟩
  · cases h

/-- The type of a schema by its keywords, which a scalar may still replace. -/
lemma schemaType_eq (lookup : String → Lowering ResolvedType) (schema : Schema) :
    r.schemaType lookup schema = (match soleReference? schema with
      | some path => lookup path
      | none =>
        if !schema.oneOf.isEmpty || !schema.anyOf.isEmpty then do
          let t ← r.wordType "AnyType" "object"
          pure { t with isOneOf := !schema.oneOf.isEmpty }
        else if schema.isComposed then r.wordType "object" "object"
        else if schema.isArray then do r.arrayType schema (← r.itemsType lookup schema.items)
        else if schema.isMap || (schema.isType .object && schema.properties.isEmpty) then
          r.valuesType lookup schema.additional
        else r.plainType schema) >>= r.overridden schema := by
  cases hsole : soleReference? schema with
  | some path =>
    cases schema
    simp only [schemaType, hsole]
  | none =>
    cases schema
    simp only [schemaType, hsole]
    split_ifs <;> simp only [bind_assoc, pure_bind]

end Resolver

end ApiLowering
