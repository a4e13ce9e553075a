import ApiLowering.Proofs.Models.Defaults

/-!
# Documented references

A reference has no place for a description, so a reference with a description of its own is written
as a schema whose only part is the reference. Its type is that of the component. What the schema of
the component says of its values is read from the schema around the reference, though, and that says
nothing: titles, limits and defaults, the constants of enumerated items and what is known of items
are lost. So documenting a reference changes nothing else exactly if there was nothing to lose.

## Main definitions

* `Schema.documented` — a reference with a description, and nothing else.
* `Property.Silent` — a property of which no schema says anything but its type.
* `Resolver.Documents` — what becomes of a property when its reference is documented.

## Main results

* `Document.isInlineEnum_of_resolve` — a reference is never the type of values that are enumerated
  in place.
* `Resolver.property_documented` — the property of a documented reference.
* `Document.documented_of_resolver` — it is the property of the reference with a description exactly
  if that is silent.
-/

namespace ApiLowering

/-- A reference with a description: a schema that has it as its only part, and says nothing else. -/
def Schema.documented (path text : String) : Schema where
  allOf := [.ref path]
  keywords := { description := some text }

/-! ## Silent properties -/

/-- What initializes the fields of a type without a default: containers start empty. -/
def Setup.emptyInitializer (setup : Setup) (facts : TypeFacts) : Option String :=
  if setup.options.containerDefaultToNull then none
  else if facts.isArray then some (setup.dialect.collectionInit facts.uniqueItems none)
  else if facts.isMap then some setup.dialect.emptyMapInit
  else none

/-- A property of which no schema says anything but its type, apart from its description. Of its
items there is nothing known but their type either. -/
structure Property.Silent (setup : Setup) (p : Property) : Prop where
  title : p.title = none
  isNullable : p.isNullable = false
  isReadOnly : p.isReadOnly = false
  isWriteOnly : p.isWriteOnly = false
  deprecated : p.deprecated = false
  sample : p.sample = none
  constraints : p.constraints = {}
  formatPattern : p.formatPattern = none
  enumConstants : p.enumConstants = []
  items : p.items = p.items.map Property.outline
  defaultValue : p.defaultValue = none
  initializer : p.initializer = setup.emptyInitializer p.type
  vendorExtensions : p.vendorExtensions = ⟨[]⟩

/-- The facets that a property has from all else. -/
def Resolver.facetsOf (r : Resolver) (p : Property) : PropertyFacets :=
  ({ p with facets := r.propertyFacets { p with facets := {} } }.annotated r.setup.annotator).facets

namespace Property

variable {setup : Setup} {p p' : Property}

/-- Whether a property refers to models is seen by its items, and without them by its type. -/
lemma refersToModel_congr (htype : p'.type = p.type) (hitems : p'.items = p.items) :
    p'.refersToModel = p.refersToModel := by
  have hof {p inner : Property} (h : p.items = some inner) :
      p.refersToModel = inner.refersToModel := by
    cases p
    cases h
    rw [refersToModel, innermost]
    rfl
  have hplain {p : Property} (h : p.items = none) : p.refersToModel = p.type.isModel := by
    cases p
    cases h
    rw [refersToModel, innermost]
  cases hinner : p.items with
  | some inner => rw [hof hinner, hof (hitems.trans hinner)]
  | none => rw [hplain hinner, hplain (hitems.trans hinner), htype]

/-- A silent property is given by its outline, its description, its items and its facets. -/
lemma Silent.eq_outline (h : p.Silent setup) :
    p = { p.outline with
      description := p.description
      items := p.items
      initializer := setup.emptyInitializer p.type
      facets := p.facets } := by
  obtain ⟨h₁, h₂, h₃, h₄, h₅, h₆, h₇, h₈, h₉, -, h₁₀, h₁₁, h₁₂⟩ := h
  cases p
  simp only at h₁ h₂ h₃ h₄ h₅ h₆ h₇ h₈ h₉ h₁₀ h₁₁ h₁₂
  subst h₁ h₂ h₃ h₄ h₅ h₆ h₇ h₈ h₉ h₁₀ h₁₁ h₁₂
  rfl

/-- A description does not break silence. -/
lemma Silent.of_withDescription {description : Option String}
    (h : Silent setup { p with description }) : p.Silent setup :=
  ⟨h.title, h.isNullable, h.isReadOnly, h.isWriteOnly, h.deprecated, h.sample, h.constraints,
    h.formatPattern, h.enumConstants, h.items, h.defaultValue, h.initializer, h.vendorExtensions⟩

end Property

namespace Resolver

variable {r : Resolver} {s s' s₁ : Session} {p p' i described : Property} {t own : ResolvedType}
  {target container : Schema} {ref : SchemaRef} {path text name baseName : String}
  {required : Bool} {site : DefaultSite} {imports : NameSet}

/-- Facets go by the type, the items, the default, and by who may write the values. -/
lemma facetsOf_congr (htype : p'.type = p.type) (hitems : p'.items = p.items)
    (hread : p'.isReadOnly = p.isReadOnly) (hdefault : p'.defaultValue = p.defaultValue) :
    r.facetsOf p' = r.facetsOf p := by
  have hmodels : ({ p' with facets := {} } : Property).refersToModel =
      ({ p with facets := {} } : Property).refersToModel :=
    Property.refersToModel_congr htype hitems
  simp only [facetsOf, Property.annotated, propertyFacets]
  rw [hmodels, htype, hitems, hread, hdefault]

lemma facets_completedProperty {items : Option Property} {constants : List EnumConstant}
    {value : DefaultValue}
    (h : r.describedProperty name baseName ref required target t = described) :
    (r.completedProperty described items constants value).facets =
      r.facetsOf (r.completedProperty described items constants value) := by
  have hfacets : described.facets = {} := by
    rw [← h, describedProperty]
    cases describing ref target t <;> rfl
  rw [facetsOf, completedProperty]
  simp only [Property.annotated, propertyFacets, hfacets]

/-! ## Items -/

lemma outline_bareItems : (bareItems name baseName t).outline = bareItems name baseName t := rfl

/-- Whatever schema describes items, they are called and typed the same. -/
lemma outline_itemsProperty (h : r.itemsProperty name baseName container t s = .ok (i, s')) :
    i.outline = bareItems name baseName t := by
  obtain ⟨-, rfl⟩ | ⟨_, _, _, told, _, _, _, -, -, htold, -, rfl⟩ := itemsProperty_cases h
  · exact outline_bareItems
  · rw [describedItems] at htold
    split at htold
    · obtain ⟨rfl, -⟩ := Lowering.pure_eq_ok_iff.1 htold
      rfl
    · simp only at htold
      split at htold
      · obtain ⟨constants, _, -, htold⟩ := Lowering.bind_eq_ok_iff.1 htold
        obtain ⟨rfl, -⟩ := Lowering.pure_eq_ok_iff.1 htold
        rfl
      · obtain ⟨rfl, -⟩ := Lowering.pure_eq_ok_iff.1 htold
        rfl

lemma outline_itemsOf {items : Option Property} {inner : Option ResolvedType}
    (h : r.itemsOf name baseName container inner s = .ok (items, s')) :
    items.map Property.outline = inner.map (bareItems name baseName) := by
  cases inner with
  | none =>
    obtain ⟨rfl, -⟩ := Lowering.pure_eq_ok_iff.1 h
    rfl
  | some t =>
    obtain ⟨i, _, hi, h⟩ := Lowering.bind_eq_ok_iff.1 h
    obtain ⟨rfl, -⟩ := Lowering.pure_eq_ok_iff.1 h
    exact congrArg some (outline_itemsProperty hi)

/-! ## The schema around a reference -/

lemma resolve_documented (h : r.resolve (.ref path) s = .ok (t, s'))
    (hplace : t.isInlineEnum = false) :
    r.resolve (.inline (.documented path text)) s = .ok (t, s') := by
  have hsole : soleReference? (.documented path text) = some path := rfl
  rw [resolve, typeOf, schemaType_eq, hsole]
  refine Lowering.bind_eq_ok_iff.2 ⟨t, s', h, ?_⟩
  cases t
  subst hplace
  rfl

/-- The type of a property is the same with a description. -/
lemma propertyType_documented (h : r.propertyType name (.ref path) s = .ok (t, s'))
    (hplace : ∀ own s', r.resolve (.ref path) s = .ok (own, s') → own.isInlineEnum = false) :
    r.propertyType name (.inline (.documented path text)) s = .ok (t, s') := by
  rw [propertyType] at h ⊢
  obtain ⟨own, s₁, hown, h⟩ := Lowering.bind_eq_ok_iff.1 h
  exact Lowering.bind_eq_ok_iff.2 ⟨own, s₁, resolve_documented hown (hplace own s₁ hown), h⟩

lemma described_documented (p : Property) (path text : String) :
    p.described (.documented path text) =
      { p with
        description := some text
        title := none
        isNullable := false
        isReadOnly := false
        isWriteOnly := false
        deprecated := false
        sample := none
        constraints := {}
        formatPattern := none
        vendorExtensions := ⟨[]⟩ } := by
  have hlimits : (Schema.documented path text).constraints = {} := rfl
  rw [Property.described, hlimits]
  simp only [ite_self]
  rfl

/-- A documented reference gives a property nothing but its description. -/
lemma describedProperty_documented :
    r.describedProperty name baseName (.inline (.documented path text)) required
        (.documented path text) t =
      { r.namedProperty name baseName with
        required
        type := t.facts
        isEnum := t.innermost.isInlineEnum && t.items.isNone
        description := some text } := by
  have hdescribing : describing (.inline (.documented path text)) (.documented path text) t =
      some (.documented path text) := ite_self _
  rw [describedProperty, hdescribing]
  simp only [described_documented]
  rfl

/-- It says nothing of the items of a container, -/
lemma itemsOf_documented (inner : Option ResolvedType) :
    r.itemsOf name baseName (.documented path text) inner =
      pure (inner.map (bareItems name baseName)) := by
  cases inner with
  | none => rfl
  | some t =>
    cases t with | mk facts boxedType isInlineEnum isOneOf items keyType imports =>
    rw [itemsOf, itemsProperty]
    rfl

/-- so it has no constants for them, -/
lemma propertyConstants_documented (h : p.items = t.items.map (bareItems name baseName)) :
    r.propertyConstants p (.documented path text) t = pure [] := by
  have hnone (valueType : String) :
      r.setup.enumConstants (.documented path text) valueType = pure [] := rfl
  rw [propertyConstants, h, hnone]
  cases t.items with
  | none => exact ite_self _
  | some inner => exact ite_self _

/-- and it has no default. -/
lemma defaultValue_documented {c : Components} {setup : Setup} :
    setup.defaultValue c (.inline (.documented path text)) t false site =
      pure { initializer := setup.emptyInitializer t.facts } := by
  have hdefault : (Schema.documented path text).keywords.defaultValue = none := rfl
  rw [Setup.defaultValue_eq rfl, Setup.emptyInitializer, Setup.arrayDefault, hdefault,
    Bool.false_or]
  cases setup.options.containerDefaultToNull <;> cases t.facts.isArray <;>
    cases t.facts.isMap <;> rfl

/-! ## Properties of documented references -/

/-- **The property of a documented reference** has its name and its type, and is silent but for its
description. -/
theorem property_documented (text : String) (required : Bool) (site : DefaultSite)
    (hname : r.setup.names.propertyName baseName = .ok name)
    (ht : r.propertyType name (.inline (.documented path text)) s = .ok (t, s₁)) :
    ∃ p, r.property baseName (.inline (.documented path text)) required site s =
        .ok ((p, t.imports), s₁) ∧
      p.outline = { r.namedProperty name baseName with
        required
        type := t.facts
        isEnum := t.innermost.isInlineEnum && t.items.isNone } ∧
      p.items = t.items.map (bareItems name baseName) ∧ p.description = some text ∧
      p.facets = r.facetsOf p ∧ p.Silent r.setup := by
  have hdescribed : r.describedProperty name baseName (.inline (.documented path text)) required
      (.documented path text) t = _ := describedProperty_documented
  refine ⟨_, property_eq_ok_iff.2 ⟨name, t, s₁, none, .documented path text, _,
    t.items.map (bareItems name baseName), s₁, [], s₁,
    { initializer := r.setup.emptyInitializer t.facts }, hname, ht, rfl, hdescribed,
    congrFun (itemsOf_documented t.items) s₁, congrFun (propertyConstants_documented rfl) s₁,
    congrFun defaultValue_documented s₁, rfl, rfl⟩, rfl, rfl, rfl,
    facets_completedProperty hdescribed, ?_⟩
  refine ⟨rfl, rfl, rfl, rfl, rfl, rfl, rfl, rfl, rfl, ?_, rfl, rfl, rfl⟩
  cases hitems : t.items with
  | none => simp [completedProperty, Property.annotated]
  | some inner => simp [completedProperty, Property.annotated, outline_bareItems]

/-- A type of a class, or of an enumeration with a class, is no container. -/
lemma Resolved.plain_of_class (h : r.Resolved t)
    (hclass : (t.facts.isModel || t.facts.isEnumRef) = true) :
    t.items = none ∧ t.facts.isArray = false ∧ t.facts.isMap = false := by
  induction h with
  | named hnamed =>
    obtain ⟨_, -, rfl⟩ | ⟨_, -, rfl⟩ := namedType?_cases hnamed
    · exact ⟨rfl, rfl, rfl⟩
    · exact ⟨rfl, rfl, rfl⟩
  | word => exact ⟨rfl, rfl, rfl⟩
  | array => cases hclass
  | map => cases hclass
  | replaced _ _ ih => exact ih hclass
  | enumerating _ _ ih => exact ih hclass

/-- So is the type of a property that refers to one. -/
lemma plain_of_propertyType (h : r.propertyType name ref s = .ok (t, s'))
    (hplace : ∀ own s', r.resolve ref s = .ok (own, s') → own.isInlineEnum = false)
    (hclass : (t.facts.isModel || t.facts.isEnumRef) = true) :
    t.items = none ∧ t.facts.isArray = false ∧ t.facts.isMap = false ∧
      t.innermost.isInlineEnum = false := by
  obtain ⟨own, hown, htype⟩ := propertyType_cases h
  have hclass' : (own.facts.isModel || own.facts.isEnumRef) = true := by
    obtain ⟨-, rfl⟩ | ⟨-, rfl⟩ := htype
    · cases hitems : own.items with
      | none => rwa [ResolvedType.setEnumName_of_no_items hitems] at hclass
      | some inner =>
        rw [ResolvedType.setEnumName_of_items hitems, ResolvedType.rewrap] at hclass
        split at hclass <;> exact hclass
    · exact hclass
  obtain ⟨hitems, harray, hmap⟩ := (resolved_resolve hown).plain_of_class hclass'
  have hinline : own.innermost.isInlineEnum = false := by
    rw [ResolvedType.innermost_of_no_items hitems]
    exact hplace own s' hown
  obtain ⟨henum, -⟩ | ⟨-, rfl⟩ := htype
  · rw [hinline] at henum
    cases henum
  · exact ⟨hitems, harray, hmap, hinline⟩

/-- What becomes of a property when its reference is documented: it is called and typed the same,
and so are its items, but it is silent. So it is the same property with a description exactly if
that was silent; the property of a class is, if it has no default. -/
structure Documents (r : Resolver) (text : String) (p p' : Property) : Prop where
  outline : p'.outline = p.outline
  items : p'.items = p.items.map Property.outline
  description : p'.description = some text
  silent : p'.Silent r.setup
  eq_iff : p' = { p with description := some text } ↔ p.Silent r.setup
  silent_iff_of_class : (p.type.isModel || p.type.isEnumRef) = true →
    (p.Silent r.setup ↔ p.defaultValue = none ∧ p.initializer = none)

/-- A silent property is told from another one by its outline, its description and its items. -/
lemma eq_withDescription_iff (houtline : p'.outline = p.outline)
    (hitems : p'.items = p.items.map Property.outline) (hdescription : p'.description = some text)
    (hsilent : p'.Silent r.setup) (hfacets : p.facets = r.facetsOf p)
    (hfacets' : p'.facets = r.facetsOf p') :
    p' = { p with description := some text } ↔ p.Silent r.setup := by
  constructor
  · intro heq
    rw [heq] at hsilent
    exact hsilent.of_withDescription
  · intro hs
    have htype : p'.type = p.type := (congrArg Property.type houtline :)
    have hsame : p'.items = p.items := hitems.trans hs.items.symm
    have hfacets'' : p'.facets = p.facets := by
      rw [hfacets, hfacets']
      exact facetsOf_congr htype hsame (hsilent.isReadOnly.trans hs.isReadOnly.symm)
        (hsilent.defaultValue.trans hs.defaultValue.symm)
    calc p'
      _ = { p'.outline with
            description := p'.description
            items := p'.items
            initializer := r.setup.emptyInitializer p'.type
            facets := p'.facets } := hsilent.eq_outline
      _ = { p.outline with
            description := some text
            items := p.items
            initializer := r.setup.emptyInitializer p.type
            facets := p.facets } := by rw [houtline, hdescription, hsame, htype, hfacets'']
      _ = { p with description := some text } :=
          congrArg (fun q : Property => { q with description := some text }) hs.eq_outline.symm

/-- **A documented reference**, if references are not types of values that are enumerated in place.
-/
theorem documents_of_property
    (hplace : ∀ s own s', r.resolve (.ref path) s = .ok (own, s') → own.isInlineEnum = false)
    (h : r.property baseName (.ref path) required site s = .ok ((p, imports), s')) :
    ∃ p' s'', r.property baseName (.inline (.documented path text)) required site s =
        .ok ((p', imports), s'') ∧ r.Documents text p p' := by
  obtain ⟨name, t, s₁, key, target, described, items, s₂, constants, s₃, value, hname, ht, htarget,
    hdescribed, hitems, hconstants, hvalue, rfl, rfl⟩ := property_eq_ok_iff.1 h
  obtain ⟨p', hp', houtline', hitems', hdescription, hfacets', hsilent⟩ :=
    property_documented text required site hname (propertyType_documented ht (hplace s))
  have houtline := outline_describedProperty hdescribed
  have hsame : p'.outline = (r.completedProperty described items constants value).outline :=
    houtline'.trans houtline.symm
  have hbelow : p'.items = items.map Property.outline :=
    hitems'.trans (outline_itemsOf hitems).symm
  refine ⟨p', s₁, hp', hsame, hbelow, hdescription, hsilent,
    eq_withDescription_iff hsame hbelow hdescription hsilent (facets_completedProperty hdescribed)
      hfacets', fun hclass => ?_⟩
  have htype : described.type = t.facts := congrArg Property.type houtline
  have hclass : (t.facts.isModel || t.facts.isEnumRef) = true := htype ▸ hclass
  obtain ⟨hnone, harray, hmap, hinline⟩ := plain_of_propertyType ht (hplace s) hclass
  -- the schema of a class does not describe the property, and there are no items
  have hundescribed : describing (.ref path) target t = none := by
    rw [describing, if_pos hclass]
    rfl
  rw [hnone] at hitems
  obtain ⟨rfl, -⟩ := Lowering.pure_eq_ok_iff.1 hitems
  rw [propertyConstants, hinline, if_neg Bool.false_ne_true] at hconstants
  obtain ⟨rfl, -⟩ := Lowering.pure_eq_ok_iff.1 hconstants
  have hempty : r.setup.emptyInitializer described.type = none := by
    rw [htype, Setup.emptyInitializer, harray, hmap]
    exact ite_self none
  constructor
  · intro hs
    exact ⟨hs.defaultValue, hs.initializer.trans hempty⟩
  · rintro ⟨hdefault, hinitializer⟩
    rw [describedProperty, hundescribed] at hdescribed
    subst hdescribed
    exact ⟨rfl, rfl, rfl, rfl, rfl, rfl, rfl, rfl, rfl, rfl, hdefault,
      hinitializer.trans hempty.symm, rfl⟩

end Resolver

namespace Document

open Schema

variable {d : Document} {o : Options} {r : Resolver}

/-- **A reference is never the type of values that are enumerated in place**: the schema that
enumerates them has a class, or is mapped. -/
theorem isInlineEnum_of_resolve (h : d.resolver o = .ok r) {path : String} {s s' : Session}
    {t : ResolvedType} (ht : r.resolve (.ref path) s = .ok (t, s')) : t.isInlineEnum = false := by
  obtain ⟨-, -, -, _, _, -, hbuild⟩ := exists_build_of_resolver h
  have hresolve := ht
  rw [Resolver.resolve, Resolver.typeOf, Resolver.depth] at ht
  obtain ⟨_, -, hnamed | ⟨-, last, target, htarget, hnamed | ⟨hnone, -⟩⟩⟩ :=
    Resolver.pathType_spec ht
  · exact Resolver.isInlineEnum_of_namedType? hnamed
  · exact Resolver.isInlineEnum_of_namedType? hnamed
  · by_contra hinline
    have hreference : r.components.resolveSchema (.ref path) = .ok (some last, target) := by
      rw [Components.resolveSchema, htarget]
      rfl
    have henum : target.isEnum = true :=
      Resolver.isEnum_of_isInlineEnum hresolve hreference (Bool.not_eq_false _ ▸ hinline)
    obtain ⟨keys, hleads⟩ := Reference.follow_eq_ok_iff.1 htarget
    have hneeds : target.needsModel = true := by rw [needsModel, henum, Bool.true_or]
    rw [Resolver.namedType?] at hnone
    split at hnone
    · cases hnone
    · cases hnone
    · rename_i hmapping hmodels
      have hunmapped : r.setup.options.schemaMapping.contains last = false := by
        rw [Table.contains, hmapping]
        rfl
      have hkey := Resolver.mem_keys_of_build hbuild
        (Table.mem_of_find?_eq_some hleads.find?_last) hneeds hunmapped
      have hcontains := Table.contains_iff.2 hkey
      rw [Table.contains, hmodels] at hcontains
      cases hcontains

/-- **Documented references.** Where a reference becomes a property, the reference with a
description becomes one too, with the same imports. It is called and typed the same, and so are its
items, but it is silent, whatever the schema of the component says. So it is the same property with
a description exactly if that property was silent. The property of a class is silent if it has no
default. -/
theorem documented_of_resolver (h : d.resolver o = .ok r) {baseName path : String}
    {required : Bool} {site : DefaultSite} {s s' : Session} {p : Property} {imports : NameSet}
    (hp : r.property baseName (.ref path) required site s = .ok ((p, imports), s'))
    (text : String) :
    ∃ p' s'', r.property baseName (.inline (.documented path text)) required site s =
        .ok ((p', imports), s'') ∧ r.Documents text p p' :=
  Resolver.documents_of_property (fun _ _ _ => isInlineEnum_of_resolve h) hp

/-- Pets are of a kind and have colors. Kinds are a class, and lists of colors enumerate their
items. -/
def coloredPets (colors : SchemaRef) : Document :=
  let text (values : List Json) : Schema :=
    { ofType .string with keywords.enumValues := values }
  ofSchemas [
    ("Kind", .inline (text [.string "cat", .string "dog"])),
    ("Colors", .inline { ofType .array with
      items := some (.inline (text [.string "black", .string "white"]))
      keywords.maxItems := some 3 }),
    ("Pet", ofProperties [("kind", .ref (Reference.toSchema "Kind")), ("colors", colors)])]

/-- Kinds of pets have no default, so there is nothing to lose. -/
theorem documented_of_resolver_kind : ∃ r p imports s',
    (coloredPets (.ref (Reference.toSchema "Colors"))).resolver {} = .ok r ∧
    r.property "kind" (.ref (Reference.toSchema "Kind")) true .property (.start r.setup) =
      .ok ((p, imports), s') ∧
    ∃ p' s'', r.property "kind" (.inline (.documented (Reference.toSchema "Kind") "What it is."))
        true .property (.start r.setup) = .ok ((p', imports), s'') ∧
      p' = { p with description := some "What it is." } := by
  obtain ⟨r, hr, hplain⟩ := exists_resolver
    (d := coloredPets (.ref (Reference.toSchema "Colors"))) (o := {})
    (P := fun r => ((r.property "kind" (.ref (Reference.toSchema "Kind")) true .property
      (.start r.setup)).toOption.any fun out => out.1.1.type.isEnumRef &&
        out.1.1.defaultValue.isNone && out.1.1.initializer.isNone) = true)
    (by decide +kernel)
  cases hp : r.property "kind" (.ref (Reference.toSchema "Kind")) true .property
      (.start r.setup) with
  | error f =>
    rw [hp] at hplain
    cases hplain
  | ok out =>
    obtain ⟨⟨p, imports⟩, s'⟩ := out
    rw [hp] at hplain
    simp only [Except.toOption, Option.any_some, Bool.and_eq_true,
      Option.isNone_iff_eq_none] at hplain
    obtain ⟨⟨henum, hdefault⟩, hinitializer⟩ := hplain
    obtain ⟨p', s'', hp', hdocuments⟩ := documented_of_resolver hr hp "What it is."
    refine ⟨r, p, imports, s', hr, hp, p', s'', hp', hdocuments.eq_iff.2 ?_⟩
    exact (hdocuments.silent_iff_of_class (by rw [henum, Bool.or_true])).2 ⟨hdefault, hinitializer⟩

/-- **A description that costs the constants.** The colors of a pet are a list of enumerated items,
of which there are three at most. With a description beside the reference the type is the same and
still names the enumeration, but its constants and the limit are gone. -/
theorem documented_colors_lose_constants :
    (∃ program warnings,
      (coloredPets (.ref (Reference.toSchema "Colors"))).lowered {} = .ok (program, warnings) ∧
      (program.models.flatMap fun m => m.vars.map fun p =>
          (p.type.datatypeWithEnum, p.enumConstants.map (·.name), p.constraints.maxItems)) =
        [("Kind", [], none), ("List<ColorsEnum>", ["BLACK", "WHITE"], some 3)]) ∧
    ∃ program warnings,
      (coloredPets (.inline (.documented (Reference.toSchema "Colors") "How it looks."))).lowered
        {} = .ok (program, warnings) ∧
      (program.models.flatMap fun m => m.vars.map fun p =>
          (p.type.datatypeWithEnum, p.enumConstants.map (·.name), p.constraints.maxItems)) =
        [("Kind", [], none), ("List<ColorsEnum>", [], none)] :=
  ⟨exists_lowered (d := coloredPets (.ref (Reference.toSchema "Colors"))) (o := {})
      (P := fun program => (program.models.flatMap fun m => m.vars.map fun p =>
          (p.type.datatypeWithEnum, p.enumConstants.map (·.name), p.constraints.maxItems)) =
        [("Kind", [], none), ("List<ColorsEnum>", ["BLACK", "WHITE"], some 3)])
      (by decide +kernel),
    exists_lowered
      (d := coloredPets (.inline (.documented (Reference.toSchema "Colors") "How it looks.")))
      (o := {})
      (P := fun program => (program.models.flatMap fun m => m.vars.map fun p =>
          (p.type.datatypeWithEnum, p.enumConstants.map (·.name), p.constraints.maxItems)) =
        [("Kind", [], none), ("List<ColorsEnum>", [], none)])
      (by decide +kernel)⟩

end Document

end ApiLowering
