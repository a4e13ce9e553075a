import ApiLowering.Proofs.Models.ClassNames
import ApiLowering.Proofs.Models.Constants
import ApiLowering.Proofs.Models.Sources
import ApiLowering.Proofs.Types.Resolution

/-!
# Enumerations of properties

A property is typed by an enumeration if its schema lists the values itself, or if its type is the
class of an enumeration. In the first case it has the constants, in the second case the model of
the class has them. Containers have them through their items.

## Main definitions

* `Resolver.Enumeration` — values with the constants that were made of them.
* `Resolver.TypedBy` — the enumeration of a property, or of the items of one.
* `Resolver.Uses` — the enumeration of a property or of its items.

## Main results

* `Resolver.Builds.exists_lists` — the constants of models are those of the values of their schemas.
* `Resolver.Resolved.exists_enumeration` — a type that refers to an enumeration is that of a model.
* `Resolver.Builds.lists_of_uses` — so are those of properties and items.
* `Resolver.Builds.exists_typedBy` — every property of an enumerated type has an enumeration.
-/

namespace ApiLowering

/-! ## Models keep their constants -/

namespace Setup

variable (setup : Setup)

lemma enumConstants_implement (link : InterfaceLink) (m : Model) :
    (setup.implement link m).enumConstants = m.enumConstants := by
  have hinterface : (m.withInterface link.classname).enumConstants = m.enumConstants := by
    rw [Model.withInterface]
    split <;> rfl
  rw [implement]
  split
  · rfl
  · cases link.discriminator with
    | none => exact hinterface
    | some d => exact hinterface

lemma enumConstants_linked (links : List InterfaceLink) (m : Model) :
    (setup.linked links m).enumConstants = m.enumConstants := by
  have hannounced (m : Model) : m.announceInterfaces.enumConstants = m.enumConstants := by
    rw [Model.announceInterfaces]
    split <;> rfl
  rw [linked, hannounced, implementAll]
  induction links generalizing m with
  | nil => rfl
  | cons link links ih => exact (ih _).trans (setup.enumConstants_implement link m)

end Setup

namespace Resolver

variable {r : Resolver} {s s' : Session} {t t' inner : ResolvedType} {p i : Property}
  {schema target described : Schema} {key classname name baseName : String} {ref : SchemaRef}
  {site : DefaultSite}

/-- A model has the constants that it was drafted with. -/
lemma Way.enumConstants_eq {ds folded : Drafts} {g : Property → Property} {d alone last : Draft}
    {m : Model} (hway : Way r ds folded key d alone last) (hm : last.model.FinishedFrom g m) :
    m.enumConstants = d.model.enumConstants := by
  have halone : alone.model.enumConstants = d.model.enumConstants := by
    refine Eq.trans ?_ (r.setup.enumConstants_linked (Setup.interfaceLinks ds) d.model)
    have hfrom := hway.liftedFrom
    cases hfrom with
    | stay => rfl
    | lift =>
      rw [Draft.liftInterface, Model.withInterface]
      split <;> rfl
  obtain ⟨_, _, _, rfl⟩ := hm
  rw [hway.eq_fold]
  exact halone

/-! ## Values and constants -/

/-- Constants are those of the values that a schema lists, named by a type. -/
def Lists (r : Resolver) (s : Schema) (valueType : String) (cs : List EnumConstant) : Prop :=
  ∃ σ σ', r.setup.enumConstants s valueType σ = .ok (cs, σ')

/-- Without values there are no constants. -/
lemma lists_nil {valueType : String} (h : schema.isEnum = false) :
    r.Lists schema valueType [] := by
  obtain ⟨cs, σ', hcs, hmap⟩ :=
    r.setup.exists_enumConstants_eq schema valueType (.start r.setup)
  have hvalues : schema.keywords.enumValues = [] := by
    rwa [Schema.isEnum, Bool.not_eq_false', List.isEmpty_iff] at h
  rw [Setup.namedValues, hvalues] at hmap
  rw [List.map_eq_nil_iff.1 hmap] at hcs
  exact ⟨_, σ', hcs⟩

lemma lists_of_draft {d : Draft} (h : r.draft key classname schema s = .ok (d, s')) :
    r.Lists schema (r.constantType schema) d.model.enumConstants := by
  cases drafted_of_draft h with
  | enum _ _ hconstants => exact hconstants
  | «class» hclass => exact lists_nil hclass

namespace Builds

variable {ds folded : Drafts} {g : Property → Property} {models : List Model} {m : Model}

/-- **The constants of a model** are those of the values of its schema. -/
theorem exists_lists (h : Builds r ds folded g models) (hm : m ∈ models) :
    ∃ s, r.SchemaAt m.name s ∧ r.Lists s (r.constantType s) m.enumConstants := by
  obtain ⟨key, d, alone, last, hway, hfinished⟩ := h.exists_way_of_mem hm
  obtain ⟨t, t', hdrafts⟩ := h.drafts
  obtain ⟨e, -, -, schema, hschema, t₁, t₂, hdraft⟩ :=
    (exists_draft_of_drafts hdrafts).2.2 key d hway.draft
  refine ⟨schema, ?_, ?_⟩
  · rwa [hfinished.name, hway.name]
  · rw [hway.enumConstants_eq hfinished]
    exact lists_of_draft hdraft

/-- Every entry of the table of models has a model of its class. -/
lemma exists_model_of_entry (h : Builds r ds folded g models) (hnodup : r.models.keys.Nodup)
    {entry : ModelEntry} (hentry : r.models.find? key = some entry) :
    ∃ m ∈ models, m.name = key ∧ m.classname = entry.classname := by
  obtain ⟨t, t', hdrafts⟩ := h.drafts
  have hmem := Table.mem_of_find?_eq_some hentry
  obtain ⟨d, alone, last, hway⟩ := h.exists_way ((drafts_spec hdrafts).2.1 _ hmem)
  obtain ⟨m, hm, hfinished⟩ := h.exists_model hway.fold
  have hname : m.name = key := hfinished.name.trans hway.name
  obtain ⟨e, he, hkey, hclass⟩ := h.exists_entry hm
  have hsame : r.models.find? key = some e.2 :=
    Table.find?_eq_some_of_mem hnodup (by rw [← hname, ← hkey]; exact he)
  rw [hentry, Option.some.injEq] at hsame
  exact ⟨m, hm, hname, hsame ▸ hclass⟩

end Builds

/-! ## Types of enumerations -/

/-- The type is that of the class of an enumeration, if it refers to one. -/
def Anchored (r : Resolver) (t : ResolvedType) : Prop :=
  t.facts.isEnumRef = true → ∃ key entry, r.models.find? key = some entry ∧
    entry.isEnum = true ∧ t.facts.complexType = some entry.classname

/-- **A type that refers to an enumeration is that of its class.** -/
theorem Resolved.anchored (h : r.Resolved t) : r.Anchored t := by
  induction h with
  | @named key t hnamed =>
    obtain ⟨_, -, rfl⟩ | ⟨entry, hentry, rfl⟩ := namedType?_cases hnamed
    · intro href
      cases href
    · exact fun href => ⟨key, entry, hentry, href, rfl⟩
  | word =>
    intro href
    cases href
  | array =>
    intro href
    cases href
  | map =>
    intro href
    cases href
  | replaced _ _ ih => exact ih
  | enumerating _ _ ih => exact ih

/-- The items of a resolved type are resolved. -/
lemma Resolved.items (h : r.Resolved t) (hitems : t.items = some inner) : r.Resolved inner := by
  induction h with
  | named hnamed =>
    obtain ⟨_, -, rfl⟩ | ⟨_, -, rfl⟩ := namedType?_cases hnamed
    · cases hitems
    · cases hitems
  | word => cases hitems
  | array _ hinner =>
    obtain rfl := Option.some.inj (ResolvedType.items_rewrap.symm.trans hitems)
    exact hinner
  | map _ _ hinner =>
    obtain rfl := Option.some.inj (ResolvedType.items_rewrap.symm.trans hitems)
    exact hinner
  | replaced _ _ ih => exact ih hitems
  | enumerating _ _ ih => exact ih hitems

lemma Anchored.setEnumName (h : r.Anchored t) (enumName : String) :
    r.Anchored (t.setEnumName enumName) := by
  cases hitems : t.items with
  | none =>
    rw [ResolvedType.setEnumName_of_no_items hitems]
    exact h
  | some inner =>
    rw [ResolvedType.setEnumName_of_items hitems]
    intro href
    simp only [ResolvedType.rewrap] at href ⊢
    split at href <;> exact h href

/-- So are the types of properties and of their items. -/
lemma anchored_propertyType (h : r.propertyType name ref s = .ok (t, s')) :
    r.Anchored t ∧ ∀ inner, t.items = some inner → r.Anchored inner := by
  obtain ⟨own, hown, ⟨-, rfl⟩ | ⟨-, rfl⟩⟩ := propertyType_cases h
  · have hresolved := resolved_resolve hown
    refine ⟨hresolved.anchored.setEnumName _, fun inner hinner => ?_⟩
    cases hitems : own.items with
    | none =>
      rw [ResolvedType.setEnumName_of_no_items hitems] at hinner
      rw [hitems] at hinner
      cases hinner
    | some items =>
      rw [ResolvedType.setEnumName_of_items hitems, ResolvedType.items_rewrap] at hinner
      obtain rfl := Option.some.inj hinner
      exact (hresolved.items hitems).anchored.setEnumName _
  · have hresolved := resolved_resolve hown
    exact ⟨hresolved.anchored, fun inner hinner => (hresolved.items hinner).anchored⟩

/-! ## Items -/

/-- The schema that says which values the items of a container are. Items of a class have none. -/
def describingItems (r : Resolver) (container : Schema) (i : Property) : Schema :=
  if i.type.isModel || i.type.isEnumRef then {}
  else match itemsSchema? container with
    | none => {}
    | some ref =>
      match r.components.resolveSchema ref with
      | .ok (_, s) => s
      | .error _ => {}

/-- What the schema of items says of them leaves their type alone, and gives them the constants of
their values, unless they are of a class. -/
lemma describedItems_spec {bare : Property} (h : r.describedItems bare schema t s = .ok (i, s')) :
    i.type = bare.type ∧ i.isEnum = bare.isEnum ∧
      ((t.facts.isModel || t.facts.isEnumRef) = true → i = bare) ∧
      ((t.facts.isModel || t.facts.isEnumRef) = false → t.isInlineEnum = true →
        r.Lists schema (r.setup.enumValueType schema) i.enumConstants) := by
  rw [describedItems] at h
  cases hclass : t.facts.isModel || t.facts.isEnumRef with
  | true =>
    rw [hclass, if_pos rfl] at h
    obtain ⟨rfl, -⟩ := Lowering.pure_eq_ok_iff.1 h
    exact ⟨rfl, rfl, fun _ => rfl, fun hnone => (Bool.false_ne_true hnone.symm).elim⟩
  | false =>
    rw [hclass, if_neg Bool.false_ne_true] at h
    cases hinline : t.isInlineEnum with
    | true =>
      simp only [hinline, if_true, Lowering.bind_eq_ok_iff, Lowering.pure_eq_ok_iff] at h
      obtain ⟨constants, _, hconstants, rfl, -⟩ := h
      exact ⟨rfl, rfl, fun hnone => (Bool.false_ne_true hnone).elim, fun _ _ =>
        ⟨_, _, hconstants⟩⟩
    | false =>
      simp only [hinline, Bool.false_eq_true, if_false, Lowering.pure_eq_ok_iff] at h
      obtain ⟨rfl, -⟩ := h
      exact ⟨rfl, rfl, fun hnone => (Bool.false_ne_true hnone).elim, fun _ hnone =>
        (Bool.false_ne_true hnone).elim⟩

/-- All that items are made from: their type alone, or the schema that describes them. -/
lemma itemsProperty_cases (h : r.itemsProperty name baseName target t s = .ok (i, s')) :
    itemsSchema? target = none ∧ i = bareItems name baseName t ∨
      ∃ ref key schema described below u u', itemsSchema? target = some ref ∧
        r.components.resolveSchema ref = .ok (key, schema) ∧
        r.describedItems (bareItems name baseName t) schema t s = .ok (described, u) ∧
        r.itemsOf name baseName schema t.items u = .ok (below, u') ∧
        i = { described with items := below } := by
  cases t with | mk facts boxedType isInlineEnum isOneOf items keyType imports =>
  rw [itemsProperty] at h
  cases hitems : itemsSchema? target with
  | none =>
    simp only [hitems] at h
    exact .inl ⟨rfl, (Lowering.pure_eq_ok_iff.1 h).1.symm⟩
  | some ref =>
    simp only [hitems, Lowering.bind_eq_ok_iff, Lowering.pure_eq_ok_iff,
      Lowering.lift_eq_ok_iff] at h
    obtain ⟨⟨key, schema⟩, _, ⟨hschema, rfl⟩, described, u, hdescribed, below, u', hbelow, rfl,
      -⟩ := h
    exact .inr ⟨ref, key, schema, described, below, u, u', rfl, hschema, hdescribed, hbelow, rfl⟩

/-- Items have the type that is known of them, and the constants of the values that are. -/
lemma itemsProperty_spec (h : r.itemsProperty name baseName target t s = .ok (i, s')) :
    i.type = t.facts ∧ i.isEnum = t.isInlineEnum ∧
      (i.isEnum = true → r.Lists (r.describingItems target i)
        (r.setup.enumValueType (r.describingItems target i)) i.enumConstants) := by
  obtain ⟨hitems, rfl⟩ | ⟨ref, key, schema, described, below, u, u', hitems, hschema, hdescribed, -,
    rfl⟩ := itemsProperty_cases h
  · refine ⟨rfl, rfl, fun _ => ?_⟩
    simp only [describingItems, hitems, ite_self]
    exact lists_nil rfl
  · obtain ⟨htype, henum, hbare, hlists⟩ := describedItems_spec hdescribed
    refine ⟨htype, henum, fun hinline => ?_⟩
    have htype : described.type = t.facts := htype
    cases hclass : t.facts.isModel || t.facts.isEnumRef with
    | true =>
      have hnone : r.describingItems target { described with items := below } = {} := by
        simp only [describingItems, htype, hclass, if_true]
      have hconstants : described.enumConstants = [] := by
        rw [hbare hclass]
        rfl
      rw [hnone]
      exact hconstants ▸ lists_nil rfl
    | false =>
      simp only [describingItems, htype, hclass, hitems, hschema, Bool.false_eq_true, if_false]
      exact hlists hclass (henum.symm.trans hinline)

/-- The items of a property are those of its type. -/
lemma MadeOf.exists_items (h : r.MadeOf ref site target t p) (hi : p.items = some i) :
    ∃ inner name baseName s s', t.items = some inner ∧
      r.itemsProperty name baseName target inner s = .ok (i, s') := by
  obtain ⟨name, baseName, s, s', hitems⟩ := h.items
  rw [hi] at hitems
  cases hinner : t.items with
  | none =>
    rw [hinner, itemsOf] at hitems
    cases (Lowering.pure_eq_ok_iff.1 hitems).1
  | some inner =>
    rw [hinner, itemsOf] at hitems
    obtain ⟨item, s'', hitem, hitems⟩ := Lowering.bind_eq_ok_iff.1 hitems
    obtain ⟨hitem', rfl⟩ := Lowering.pure_eq_ok_iff.1 hitems
    obtain rfl := Option.some.inj hitem'
    exact ⟨inner, name, baseName, s, s'', rfl, hitem⟩

lemma MadeOf.items_eq_none (h : r.MadeOf ref site target t p) (hnone : t.items = none) :
    p.items = none := by
  obtain ⟨name, baseName, s, s', hitems⟩ := h.items
  rw [hnone, itemsOf] at hitems
  exact (Lowering.pure_eq_ok_iff.1 hitems).1.symm

/-! ## Enumerations -/

/-- Values with the constants that were made of them, named by a type. -/
structure Enumeration where
  schema : Schema
  valueType : String
  constants : List EnumConstant

/-- The enumeration of a property, or of the items of one: its own if its values are enumerated where
they are described, and otherwise that of a model of its class. -/
inductive TypedBy (r : Resolver) (models : List Model) (described : Schema) (p : Property) :
    Enumeration → Prop
  | own : p.isEnum = true →
    TypedBy r models described p ⟨described, r.setup.enumValueType described, p.enumConstants⟩
  | model {m : Model} {s : Schema} : p.isEnum = false → p.type.isEnumRef = true → m ∈ models →
    p.type.complexType = some m.classname → r.SchemaAt m.name s →
    TypedBy r models described p ⟨s, r.constantType s, m.enumConstants⟩

/-- The enumeration of a property that a schema describes, or that of its items. -/
def Uses (r : Resolver) (models : List Model) (target : Schema) (p : Property) (e : Enumeration) :
    Prop :=
  r.TypedBy models target p e ∨
    ∃ i, p.items = some i ∧ r.TypedBy models (r.describingItems target i) i e

namespace Builds

variable {ds folded : Drafts} {g : Property → Property} {models : List Model} {m : Model}
  {e : Enumeration}

/-- The constants of an enumeration are those of its values, if those of the property itself are. -/
lemma lists_of_typedBy (h : Builds r ds folded g models)
    (hown : p.isEnum = true →
      r.Lists described (r.setup.enumValueType described) p.enumConstants)
    (he : r.TypedBy models described p e) : r.Lists e.schema e.valueType e.constants := by
  cases he with
  | own henum => exact hown henum
  | model _ _ hm _ hschema =>
    obtain ⟨s, hs, hlists⟩ := h.exists_lists hm
    rwa [hschema.unique hs]

/-- **The constants of the enumerations of properties and their items** are those of their values. -/
theorem lists_of_uses (h : Builds r ds folded g models) (hp : r.MadeOf ref site target t p)
    (he : r.Uses models target p e) : r.Lists e.schema e.valueType e.constants := by
  rcases he with he | ⟨i, hi, he⟩
  · refine h.lists_of_typedBy (fun henum => ?_) he
    obtain ⟨s, s', hconstants⟩ := hp.enumConstants
    have hinline := hp.isEnum ▸ henum
    rw [Bool.and_eq_true, Option.isNone_iff_eq_none] at hinline
    rw [propertyConstants, if_pos hinline.1, hp.items_eq_none hinline.2] at hconstants
    exact ⟨s, s', hconstants⟩
  · obtain ⟨inner, name, baseName, s, s', -, hitem⟩ := hp.exists_items hi
    exact h.lists_of_typedBy (itemsProperty_spec hitem).2.2 he

/-- A property of an enumerated type has an enumeration. -/
lemma exists_typedBy_of_anchored (h : Builds r ds folded g models) (hnodup : r.models.keys.Nodup)
    (hanchored : r.Anchored t) (htype : p.type = t.facts)
    (henum : p.isEnum = true ∨ p.type.isEnumRef = true) :
    ∃ e, r.TypedBy models described p e := by
  cases hown : p.isEnum with
  | true => exact ⟨_, .own hown⟩
  | false =>
    have href : p.type.isEnumRef = true := henum.resolve_left (by simp [hown])
    obtain ⟨key, entry, hentry, -, hclass⟩ := hanchored (htype ▸ href)
    obtain ⟨m, hm, -, hname⟩ := h.exists_model_of_entry hnodup hentry
    obtain ⟨s, hs, -⟩ := h.exists_lists hm
    exact ⟨_, .model hown href hm (by rw [htype, hclass, hname]) hs⟩

/-- **Every property of an enumerated type has an enumeration**, and so have items. -/
theorem exists_typedBy (h : Builds r ds folded g models) (hnodup : r.models.keys.Nodup)
    (hp : r.MadeOf ref site target t p) :
    (p.isEnum = true ∨ p.type.isEnumRef = true → ∃ e, r.TypedBy models target p e) ∧
      ∀ i, p.items = some i → i.isEnum = true ∨ i.type.isEnumRef = true →
        ∃ e, r.TypedBy models (r.describingItems target i) i e := by
  obtain ⟨name, s, s', ht⟩ := hp.resolves
  obtain ⟨hanchored, hitems⟩ := anchored_propertyType ht
  refine ⟨h.exists_typedBy_of_anchored hnodup hanchored hp.type, fun i hi => ?_⟩
  obtain ⟨inner, _, _, _, _, hinner, hitem⟩ := hp.exists_items hi
  exact h.exists_typedBy_of_anchored hnodup (hitems inner hinner) (itemsProperty_spec hitem).1

end Builds

end Resolver

end ApiLowering
