import ApiLowering.Proofs.Models.Enumerations
import ApiLowering.Proofs.Models.MappedModels

/-!
# Defaults that name constants

The default of a property names constants without looking at them: it takes the name that the text
of a value has by the type of the values. The constants themselves are named in other places. A
scalar that a schema asks for takes part there, several values may have one name, and the elements
of a default need not be among the values at all. A constant is there for a default exactly if its
text is the first that gets the name where the constants are named.

## Main definitions

* `Resolver.Mentions` — a default names a constant for a text.

## Main results

* `Resolver.MadeOf.mentions_or_converts`, `Resolver.MadeOf.mentions_element` — what the defaults of
  enumerated types are.
* `Document.defaults_of_lowered` — when there is a constant for a default.
-/

namespace ApiLowering

/-! ## Defaults -/

/-- The elements of the default of an array. A default that is no array is the only element. -/
def Json.elements : Json → List Json
  | .array vs => vs
  | v => [v]

/-- What an element of a default is written as: the constant of its name, if it has one. -/
def Setup.elementExpression (setup : Setup) (valueType typeName : String) (v : Json) : String :=
  match setup.names.constantName? (some v.plainText) valueType with
  | some name => typeName ++ "." ++ name
  | none => "null"

/-- The default of a schema, once this is known. -/
lemma Setup.defaultValue_eq {setup : Setup} {c : Components} {ref : SchemaRef}
    {key : Option String} {target : Schema} (h : c.resolveSchema ref = .ok (key, target))
    (t : ResolvedType) (nullable : Bool) (site : DefaultSite) :
    setup.defaultValue c ref t nullable site =
      if t.facts.isArray then liftM (setup.arrayDefault c target t nullable site)
      else if t.facts.isMap then
        if nullable || setup.options.containerDefaultToNull then pure {}
        else pure { initializer := some setup.dialect.emptyMapInit }
      else match target.keywords.defaultValue with
        | none => pure {}
        | some value =>
          if t.facts.isEnumRef || target.isEnum then do
            let enumerating ← enumeratingSchema c target
            return setup.enumDefault enumerating t value site
          else setup.scalarDefault t value := by
  rw [defaultValue, h]
  rfl

/-- The default of an array, once its elements and the type of its items are known. -/
lemma Setup.arrayDefault_eq {setup : Setup} {c : Components} {s : Schema} {t items : ResolvedType}
    {v : Json} (hdefault : s.keywords.defaultValue = some v) (hitems : t.items = some items)
    (nullable : Bool) :
    setup.arrayDefault c s t nullable .property =
      if v.elements.isEmpty then
        .ok { initializer := some (setup.dialect.collectionInit t.facts.uniqueItems none) }
      else (setup.itemExpressions c s items v.elements).map fun es =>
        ⟨some (setup.dialect.collectionInit t.facts.uniqueItems (some (Text.join ", " es))),
          some (Text.join ", " es)⟩ := by
  rw [arrayDefault, hdefault, hitems]
  cases v <;> rfl

namespace Resolver

variable {r : Resolver} {s s' : Session} {t inner : ResolvedType} {p i : Property}
  {target : Schema} {ref : SchemaRef} {v : Json} {valueType text name : String}

/-- The type that the elements of a default are named by: that of the values of the items, or the
items themselves if their schema is not known. -/
def elementValueType (r : Resolver) (target : Schema) (i : Property) : Except Fault String :=
  match target.items with
  | some ref => (r.components.resolveSchema ref).map fun (_, s) => r.setup.enumValueType s
  | none => .ok i.type.dataType

/-- The default that a schema gives to a property names a constant for a text: it is the default
itself, which is listed with the enumerated values, or an element of an array. The name is that of
the text by the type of the values. -/
inductive Mentions (r : Resolver) (target : Schema) (p : Property) (valueType : String) :
    String → String → Prop
  | scalar {listing : Schema} {v : Json} {name : String} :
    target.keywords.defaultValue = some v →
    Setup.enumeratingSchema r.components target = .ok listing →
    listing.keywords.enumValues.any (·.same v) = true →
    valueType = r.setup.enumValueType listing →
    r.setup.names.constantName? (some v.plainText) valueType = some name →
    p.initializer = some (p.type.datatypeWithEnum ++ "." ++ name) →
    Mentions r target p valueType v.plainText name
  | element {i : Property} {v w : Json} {name : String} :
    target.keywords.defaultValue = some v → w ∈ v.elements → p.items = some i →
    r.elementValueType target i = .ok valueType →
    r.setup.names.constantName? (some w.plainText) valueType = some name →
    p.initializer = some (r.setup.dialect.collectionInit p.type.uniqueItems (some (Text.join ", "
      (v.elements.map (r.setup.elementExpression valueType i.type.datatypeWithEnum))))) →
    Mentions r target p valueType w.plainText name

/-- The text has the name by the type. -/
lemma Mentions.named (h : r.Mentions target p valueType text name) :
    r.setup.names.constantName? (some text) valueType = some name := by
  cases h with
  | scalar _ _ _ _ hname => exact hname
  | element _ _ _ _ hname => exact hname

/-! ## What defaults are -/

/-- A type that has a name does not enumerate values itself. -/
lemma isInlineEnum_of_namedType? {key : String} (h : r.namedType? key = some t) :
    t.isInlineEnum = false := by
  obtain ⟨_, -, rfl⟩ | ⟨_, -, rfl⟩ := namedType?_cases h
  · rfl
  · rfl

/-- A type that enumerates values itself is that of a schema with values. -/
lemma isEnum_of_isInlineEnum {key : Option String} (h : r.resolve ref s = .ok (t, s'))
    (htarget : r.components.resolveSchema ref = .ok (key, target))
    (henum : t.isInlineEnum = true) : target.isEnum = true := by
  have hschema {lookup : String → Lowering ResolvedType} {σ σ' : Session}
      (h : r.schemaType lookup target σ = .ok (t, σ')) : target.isEnum = true := by
    rw [schemaType_eq] at h
    obtain ⟨own, _, -, h⟩ := Lowering.bind_eq_ok_iff.1 h
    obtain ⟨_, rfl, -⟩ := overridden_spec h
    exact (Bool.and_eq_true _ _ ▸ henum).1
  have hnamed {key : String} (h : r.namedType? key = some t) : False :=
    Bool.false_ne_true ((isInlineEnum_of_namedType? h).symm.trans henum)
  cases ref with
  | inline own =>
    obtain ⟨-, rfl⟩ := Prod.mk.inj (Except.ok.inj htarget)
    rw [resolve, typeOf] at h
    exact hschema h
  | ref path =>
    rw [resolve, typeOf, depth] at h
    rw [Components.resolveSchema] at htarget
    obtain ⟨_, -, hname | ⟨-, last, found, hfound, hname | ⟨-, h⟩⟩⟩ := pathType_spec h
    · exact (hnamed hname).elim
    · exact (hnamed hname).elim
    · rw [hfound] at htarget
      obtain ⟨-, rfl⟩ := Prod.mk.inj (Except.ok.inj htarget)
      exact hschema h

lemma MadeOf.isEnum_target {site : DefaultSite} (h : r.MadeOf ref site target t p)
    (henum : p.isEnum = true) : target.isEnum = true := by
  obtain ⟨key, htarget⟩ := h.leads
  obtain ⟨name, s, s', ht⟩ := h.resolves
  obtain ⟨own, hown, htype⟩ := propertyType_cases ht
  have hinline := h.isEnum ▸ henum
  rw [Bool.and_eq_true, Option.isNone_iff_eq_none] at hinline
  obtain ⟨hinner, hnone⟩ := hinline
  refine isEnum_of_isInlineEnum hown htarget ?_
  -- the name of an enumeration leaves both the items and what they enumerate alone
  obtain ⟨henum', rfl⟩ | ⟨-, rfl⟩ := htype
  · cases hitems : own.items with
    | none => rwa [ResolvedType.innermost_of_no_items hitems] at henum'
    | some inner =>
      rw [ResolvedType.setEnumName_of_items hitems, ResolvedType.items_rewrap] at hnone
      cases hnone
  · rwa [ResolvedType.innermost_of_no_items hnone] at hinner

/-- **The default of an enumerated type** names a constant, or is converted when the program runs. -/
theorem MadeOf.mentions_or_converts (h : r.MadeOf ref .property target t p)
    (henum : p.isEnum = true ∨ p.type.isEnumRef = true) (harray : p.type.isArray = false)
    (hmap : p.type.isMap = false) (hdefault : target.keywords.defaultValue = some v) :
    (∃ valueType name, r.Mentions target p valueType v.plainText name) ∨
      p.initializer =
        some (p.type.datatypeWithEnum ++ ".fromValue(" ++ Setup.valueLiteral v ++ ")") := by
  obtain ⟨key, htarget⟩ := h.leads
  obtain ⟨nullable, s, s', hvalue⟩ := h.initializes
  have hlisted : (t.facts.isEnumRef || target.isEnum) = true := by
    rw [Bool.or_eq_true]
    exact henum.symm.imp (h.type ▸ ·) h.isEnum_target
  rw [h.type] at harray hmap
  rw [Setup.defaultValue_eq htarget] at hvalue
  simp only [harray, hmap, hdefault, hlisted, Bool.false_eq_true, if_false, if_true,
    Lowering.bind_eq_ok_iff, Lowering.pure_eq_ok_iff, Lowering.lift_eq_ok_iff] at hvalue
  obtain ⟨listing, _, ⟨hlisting, -⟩, hvalue, -⟩ := hvalue
  rw [Setup.enumDefault] at hvalue
  simp only at hvalue
  split at hvalue
  · rename_i name hname hknown
    obtain ⟨hinitializer, -⟩ := DefaultValue.mk.inj hvalue
    refine .inl ⟨_, name, .scalar hdefault hlisting hknown rfl hname ?_⟩
    rw [← hinitializer, h.type]
  · obtain ⟨hinitializer, -⟩ := DefaultValue.mk.inj hvalue
    refine .inr ?_
    rw [← hinitializer, h.type]

/-- The elements of a default are written by the type of the values of the items. -/
lemma itemExpressions_spec {values : List Json} {es : List String}
    (hlisted : (inner.facts.isEnumRef || inner.isInlineEnum) = true) (htype : i.type = inner.facts)
    (h : r.setup.itemExpressions r.components target inner values = .ok es) :
    ∃ valueType, r.elementValueType target i = .ok valueType ∧
      es = values.map (r.setup.elementExpression valueType inner.facts.datatypeWithEnum) := by
  rw [Setup.itemExpressions, if_pos hlisted] at h
  rw [elementValueType, htype]
  cases hitems : target.items with
  | none =>
    rw [hitems] at h
    obtain rfl := Except.ok.inj h
    exact ⟨_, rfl, rfl⟩
  | some ref =>
    cases hschema : r.components.resolveSchema ref with
    | error e =>
      simp only [hitems, hschema] at h
      cases h
    | ok found =>
      simp only [hitems, hschema] at h ⊢
      obtain rfl := Except.ok.inj h
      exact ⟨_, rfl, rfl⟩

/-- **The default of a list of enumerated items** names a constant for each of its elements that has
a name. -/
theorem MadeOf.mentions_element (h : r.MadeOf ref .property target t p)
    (harray : p.type.isArray = true) (hi : p.items = some i)
    (henum : i.isEnum = true ∨ i.type.isEnumRef = true)
    (hdefault : target.keywords.defaultValue = some v) {w : Json} (hw : w ∈ v.elements) :
    ∃ valueType, r.elementValueType target i = .ok valueType ∧
      ∀ name, r.setup.names.constantName? (some w.plainText) valueType = some name →
        r.Mentions target p valueType w.plainText name := by
  obtain ⟨key, htarget⟩ := h.leads
  obtain ⟨nullable, s, s', hvalue⟩ := h.initializes
  obtain ⟨inner, name, baseName, _, _, hinner, hitem⟩ := h.exists_items hi
  obtain ⟨htype, hinline, -⟩ := itemsProperty_spec hitem
  have hlisted : (inner.facts.isEnumRef || inner.isInlineEnum) = true := by
    rw [← htype, ← hinline, Bool.or_eq_true]
    exact henum.symm
  have hsome : v.elements.isEmpty = false := by
    rw [List.isEmpty_eq_false_iff_exists_mem]
    exact ⟨w, hw⟩
  rw [h.type] at harray
  rw [Setup.defaultValue_eq htarget, harray, if_pos rfl, Lowering.lift_eq_ok_iff,
    Setup.arrayDefault_eq hdefault hinner, hsome, if_neg Bool.false_ne_true] at hvalue
  obtain ⟨es, hes, hdefaults⟩ := Drafts.map_eq_ok_iff.1 hvalue.1
  obtain ⟨valueType, htype', rfl⟩ := itemExpressions_spec hlisted htype hes
  refine ⟨valueType, htype', fun name hname => .element hdefault hw hi htype' hname ?_⟩
  rw [h.type, htype, ← (DefaultValue.mk.inj hdefaults).1]

/-! ## Constants for defaults -/

/-- A property is made from a schema, and what its default mentions is found among the constants of
its enumeration. -/
structure Defaulted (r : Resolver) (models : List Model) (ref : SchemaRef) (target : Schema)
    (p : Property) : Prop where
  makes : r.Makes ref p
  leads : ∃ key, r.components.resolveSchema ref = .ok (key, target)
  /-- An enumerated type has an enumeration. -/
  typedBy : p.isEnum = true ∨ p.type.isEnumRef = true → ∃ e, r.TypedBy models target p e
  /-- So have enumerated items. -/
  itemsTypedBy : ∀ i, p.items = some i → i.isEnum = true ∨ i.type.isEnumRef = true →
    ∃ e, r.TypedBy models (r.describingItems target i) i e
  /-- There is a constant for a text if that is the first with the name. -/
  constant : ∀ valueType text name, r.Mentions target p valueType text name →
    ∀ e, r.Uses models target p e → ((∃ c ∈ e.constants, c.name = name ∧ c.rawValue = text) ↔
      r.setup.constantText? e.schema e.valueType name = some text)
  /-- So there is one if the default goes by the type of the constants, and the text is among the
  values and has the name for itself. -/
  alone : ∀ valueType text name, r.Mentions target p valueType text name →
    ∀ e, r.Uses models target p e → e.valueType = valueType →
      (∃ v ∈ e.schema.keywords.enumValues, v.isNull = false ∧ v.plainText = text) →
      (∀ v ∈ e.schema.keywords.enumValues,
        r.setup.names.constantName? (some v.plainText) valueType = some name →
          v.plainText = text) →
      ∃ c ∈ e.constants, c.name = name ∧ c.rawValue = text

end Resolver

namespace Document

open Schema

/-- **Defaults and constants.** Every property in a list of a model is made from a schema. Where its
default names a constant, the enumeration that it or its items are typed by has a constant of this
name with the text of the value exactly if this text is the first of the enumerated values to get the
name, by the type that the enumeration names its constants by. -/
theorem defaults_of_lowered {d : Document} {o : Options} {program : Program}
    {warnings : List String} (h : d.lowered o = .ok (program, warnings)) :
    ∃ r, d.resolver o = .ok r ∧ ∀ m ∈ program.models, ∀ ps ∈ m.propertyLists, ∀ p ∈ ps.2,
      ∃ ref target, r.Defaulted program.models ref target p := by
  obtain ⟨r, ds, folded, g, hr, hbuilds⟩ := builds_of_lowered h
  refine ⟨r, hr, fun m hm ps hps p hp => ?_⟩
  obtain ⟨-, -, -, s, s', -, hbuild⟩ := exists_build_of_resolver hr
  obtain ⟨ref, hmakes⟩ := hbuilds.sources hm ps hps p hp
  obtain ⟨target, t, hof⟩ := hmakes.exists_madeOf
  obtain ⟨htyped, hitems⟩ := hbuilds.exists_typedBy (Resolver.nodup_keys_of_build hbuild).1 hof
  have hiff {e : Resolver.Enumeration} {text name : String}
      (he : r.Uses program.models target p e) :
      (∃ c ∈ e.constants, c.name = name ∧ c.rawValue = text) ↔
        r.setup.constantText? e.schema e.valueType name = some text := by
    obtain ⟨σ, σ', hconstants⟩ := hbuilds.lists_of_uses hof he
    exact r.setup.exists_constant_iff hconstants
  refine ⟨ref, target, hmakes, hof.leads, htyped, hitems, fun _ _ _ _ e he => hiff he,
    fun valueType text name hmentions e he htype hlisted halone => (hiff he).2 ?_⟩
  rw [htype]
  exact r.setup.constantText?_of_alone hmentions.named hlisted halone

/-- Kinds of pets are an enumeration of their own, and the colors of a pet are enumerated where they
are listed. -/
def petsOfKinds : Document :=
  let text (values : List Json) : Schema :=
    { ofType .string with keywords.enumValues := values }
  ofSchemas [
    ("Kind", .inline { text [.string "cat", .string "dog"] with
      keywords.defaultValue := some (.string "dog") }),
    ("Pet", ofProperties [
      ("kind", .ref (Reference.toSchema "Kind")),
      ("colors", .inline { ofType .array with
        items := some (.inline (text [.string "black", .string "white"]))
        keywords.defaultValue := some (.array [.string "white"]) })])]

/-- The kind of a pet is a dog and its color is white, unless it is said otherwise. -/
theorem defaults_of_lowered_petsOfKinds : ∃ program warnings,
    petsOfKinds.lowered {} = .ok (program, warnings) ∧
    (program.models.map fun m => (m.classname, m.enumConstants.map (·.name),
        m.vars.map (·.initializer))) =
      [("Kind", ["CAT", "DOG"], []),
        ("Pet", [], [some "Kind.DOG", some "new ArrayList<>(Arrays.asList(ColorsEnum.WHITE))"])] ∧
    ∃ r, petsOfKinds.resolver {} = .ok r ∧ ∀ m ∈ program.models, ∀ ps ∈ m.propertyLists,
      ∀ p ∈ ps.2, ∃ ref target, r.Defaulted program.models ref target p := by
  obtain ⟨program, warnings, h, hdefaults⟩ := exists_lowered (d := petsOfKinds) (o := {})
    (P := fun program => (program.models.map fun m => (m.classname, m.enumConstants.map (·.name),
        m.vars.map (·.initializer))) =
      [("Kind", ["CAT", "DOG"], []),
        ("Pet", [], [some "Kind.DOG", some "new ArrayList<>(Arrays.asList(ColorsEnum.WHITE))"])])
    (by decide +kernel)
  exact ⟨program, warnings, h, hdefaults, defaults_of_lowered h⟩

/-- Collars have sizes that are texts and stand for numbers. -/
def collars : Document :=
  ofSchemas [
    ("Collar", ofProperties [("size", .ref (Reference.toSchema "CollarSize"))]),
    ("CollarSize", .inline { ofType .string with
      keywords.enumValues := [.string "1", .string "2"]
      keywords.defaultValue := some (.string "1")
      keywords.extensions := ⟨[("x-type", .string "int")]⟩ })]

/-- **A default without a constant.** The sizes of collars ask for a scalar, so their constants are
named for numbers. The default goes by the type of the values, which are texts, and names a constant
that is not there. -/
theorem default_without_constant : ∃ program warnings,
    collars.lowered {} = .ok (program, warnings) ∧
    (program.models.flatMap fun m => m.vars.map fun p => (p.type.complexType, p.initializer)) =
      [(some "CollarSize", some "CollarSize._1")] ∧
    (program.models.map fun m => (m.classname, m.enumConstants.map fun c => (c.name, c.rawValue))) =
      [("Collar", []), ("CollarSize", [("NUMBER_1", "1"), ("NUMBER_2", "2")])] :=
  exists_lowered (d := collars) (o := {})
    (P := fun program =>
      (program.models.flatMap fun m => m.vars.map fun p => (p.type.complexType, p.initializer)) =
        [(some "CollarSize", some "CollarSize._1")] ∧
      (program.models.map fun m =>
          (m.classname, m.enumConstants.map fun c => (c.name, c.rawValue))) =
        [("Collar", []), ("CollarSize", [("NUMBER_1", "1"), ("NUMBER_2", "2")])])
    (by decide +kernel)

end Document

end ApiLowering
