import ApiLowering.Proofs.Models.Inheritance

/-!
# The schemas of properties

A model lists copies of its own properties and of those of its ancestors and interfaces. Each copy
was made from a schema once. It may have been marked as a discriminator since, and it has been
finished, but its type, its default, its constants and its items are those that it was made with.

## Main definitions

* `Property.CopiedFrom` — a property is another one with other marks and annotations.
* `Resolver.Makes` — a property is a copy of what a schema becomes.
* `Resolver.MadeOf` — what a property has from its schema.
* `Resolver.Sources` — all properties in the lists of a model are made from schemas.

## Main results

* `Resolver.exists_madeOf_of_property` — what a schema becomes under a name.
* `Resolver.Builds.sources` — every property in a list of a model is made from a schema.
-/

namespace ApiLowering

/-! ## Copies -/

/-- A property is another one that may have been marked and finished since. The type that templates
write is replaced in Kotlin alone. -/
structure Property.CopiedFrom (l : Language) (p p' : Property) : Prop where
  type : p'.type = p.type
  isEnum : p'.isEnum = p.isEnum
  defaultValue : p'.defaultValue = p.defaultValue
  initializer : p'.initializer = p.initializer
  enumConstants : p'.enumConstants = p.enumConstants
  items : p'.items = p.items
  annotatedType : p'.facets.annotatedType = p.facets.annotatedType
  annotatedTypeWithEnum : l = .java →
    p'.facets.annotatedTypeWithEnum = p.facets.annotatedTypeWithEnum

namespace Property.CopiedFrom

variable {l : Language} {p p' p'' : Property}

lemma refl (p : Property) : CopiedFrom l p p :=
  ⟨rfl, rfl, rfl, rfl, rfl, rfl, rfl, fun _ => rfl⟩

lemma trans (h : CopiedFrom l p p') (h' : CopiedFrom l p' p'') : CopiedFrom l p p'' where
  type := h'.type.trans h.type
  isEnum := h'.isEnum.trans h.isEnum
  defaultValue := h'.defaultValue.trans h.defaultValue
  initializer := h'.initializer.trans h.initializer
  enumConstants := h'.enumConstants.trans h.enumConstants
  items := h'.items.trans h.items
  annotatedType := h'.annotatedType.trans h.annotatedType
  annotatedTypeWithEnum hl := (h'.annotatedTypeWithEnum hl).trans (h.annotatedTypeWithEnum hl)

end Property.CopiedFrom

lemma Property.FinishedFrom.copiedFrom {l : Language} {p p' : Property} (h : p.FinishedFrom p') :
    p.CopiedFrom l p' := by
  obtain ⟨_, _, _, _, rfl⟩ := h
  exact ⟨rfl, rfl, rfl, rfl, rfl, rfl, rfl, fun _ => rfl⟩

lemma Property.copiedFrom_fromInterface (l : Language) (p : Property)
    (d : Option ModelDiscriminator) : p.CopiedFrom l (p.fromInterface d) := by
  rw [fromInterface]
  split
  · exact ⟨rfl, rfl, rfl, rfl, rfl, rfl, rfl, fun _ => rfl⟩
  · exact .refl p

namespace Setup

variable (setup : Setup)

lemma copiedFrom_discriminating (d : ModelDiscriminator) (p : Property) :
    p.CopiedFrom setup.dialect.language (setup.discriminating d p) := by
  rw [discriminating]
  split
  · rename_i hkotlin _
    refine ⟨rfl, rfl, rfl, rfl, rfl, rfl, rfl, fun hjava => ?_⟩
    rw [hkotlin] at hjava
    cases hjava
  · exact ⟨rfl, rfl, rfl, rfl, rfl, rfl, rfl, fun _ => rfl⟩

lemma copiedFrom_inheritedProperty (p : Property) :
    p.CopiedFrom setup.dialect.language (setup.inheritedProperty p) :=
  ⟨rfl, rfl, rfl, rfl, rfl, rfl, rfl, fun _ => rfl⟩

/-! ## Linked models -/

/-- A model that implements an interface has copies of the properties that it had. -/
lemma exists_copiedFrom_of_mem_implement {link : InterfaceLink} {m : Model} {p : Property}
    (hp : p ∈ (setup.implement link m).vars) :
    ∃ q ∈ m.vars, q.CopiedFrom setup.dialect.language p := by
  rw [implement] at hp
  split at hp
  · exact ⟨p, hp, .refl p⟩
  · cases hd : link.discriminator with
    | none =>
      rw [hd] at hp
      exact ⟨p, m.vars_withInterface link.classname ▸ hp, .refl p⟩
    | some d =>
      simp only [hd, Model.vars_withInterface] at hp
      obtain ⟨q, hq, rfl⟩ := List.mem_map.1 hp
      refine ⟨q, hq, ?_⟩
      split
      · exact setup.copiedFrom_discriminating d q
      · exact .refl q

lemma exists_copiedFrom_of_mem_announceInterfaces {l : Language} {m : Model} {p : Property}
    (hp : p ∈ m.announceInterfaces.vars) : ∃ q ∈ m.vars, q.CopiedFrom l p := by
  rw [Model.announceInterfaces] at hp
  split at hp
  · exact ⟨p, hp, .refl p⟩
  · obtain ⟨q, hq, rfl⟩ := List.mem_map.1 hp
    exact ⟨q, hq, ⟨rfl, rfl, rfl, rfl, rfl, rfl, rfl, fun _ => rfl⟩⟩

/-- A linked model has copies of the properties that it had. -/
lemma exists_copiedFrom_of_mem_linked {links : List InterfaceLink} {m : Model} {p : Property}
    (hp : p ∈ (setup.linked links m).vars) :
    ∃ q ∈ m.vars, q.CopiedFrom setup.dialect.language p := by
  obtain ⟨q, hq, hcopy⟩ :=
    exists_copiedFrom_of_mem_announceInterfaces (l := setup.dialect.language) hp
  clear hp
  induction links generalizing m with
  | nil => exact ⟨q, hq, hcopy⟩
  | cons link links ih =>
    obtain ⟨w, hw, hcopy'⟩ := ih hq
    obtain ⟨v, hv, hcopy''⟩ := setup.exists_copiedFrom_of_mem_implement hw
    exact ⟨v, hv, hcopy''.trans hcopy'⟩

end Setup

/-! ## Sources -/

namespace Resolver

variable {r : Resolver} {s s' : Session} {p p' : Property} {key classname : String}
  {schema target : Schema} {t : ResolvedType} {ref : SchemaRef} {site : DefaultSite}

/-- A property is a copy of what a schema becomes under a name. -/
def Makes (r : Resolver) (ref : SchemaRef) (p : Property) : Prop :=
  ∃ name required t made imports t',
    r.property name ref required .property t = .ok ((made, imports), t') ∧
    made.CopiedFrom r.setup.dialect.language p

lemma Makes.copy (h : r.Makes ref p) (hcopy : p.CopiedFrom r.setup.dialect.language p') :
    r.Makes ref p' := by
  obtain ⟨name, required, t, made, imports, t', hmade, hp⟩ := h
  exact ⟨name, required, t, made, imports, t', hmade, hp.trans hcopy⟩

/-- What a property has from its schema, whose target is known and has some type. -/
structure MadeOf (r : Resolver) (ref : SchemaRef) (site : DefaultSite) (target : Schema)
    (t : ResolvedType) (p : Property) : Prop where
  leads : ∃ key, r.components.resolveSchema ref = .ok (key, target)
  resolves : ∃ name s s', r.propertyType name ref s = .ok (t, s')
  type : p.type = t.facts
  isEnum : p.isEnum = (t.innermost.isInlineEnum && t.items.isNone)
  items : ∃ name baseName s s', r.itemsOf name baseName target t.items s = .ok (p.items, s')
  enumConstants : ∃ s s', r.propertyConstants p target t s = .ok (p.enumConstants, s')
  initializes : ∃ nullable s s', r.setup.defaultValue r.components ref t nullable site s =
    .ok (⟨p.initializer, p.defaultValue⟩, s')
  annotatedType : p.facets.annotatedType = r.setup.annotator.declaredType p.type p.items false
  annotatedTypeWithEnum : r.setup.dialect.language = .java →
    p.facets.annotatedTypeWithEnum = r.setup.annotator.declaredType p.type p.items true

/-- A property is made of its schema, and imports what the type does. -/
theorem exists_madeOf_of_property {name : String} {required : Bool} {imports : NameSet}
    (h : r.property name ref required site s = .ok ((p, imports), s')) :
    ∃ target t, r.MadeOf ref site target t p ∧ imports = t.imports := by
  obtain ⟨own, t, _, key, target, described, _, _, _, _, _, -, ht, htarget, hdescribed, hitems,
    hconstants, hvalue, rfl, rfl⟩ := property_eq_ok_iff.1 h
  have houtline := outline_describedProperty hdescribed
  exact ⟨target, t, ⟨⟨key, htarget⟩, ⟨own, _, _, ht⟩, congrArg Property.type houtline,
    congrArg Property.isEnum houtline, ⟨own, name, _, _, hitems⟩, ⟨_, _, hconstants⟩,
    ⟨_, _, _, hvalue⟩, rfl, fun _ => rfl⟩, rfl⟩

/-- So are its copies. -/
lemma MadeOf.copy (h : r.MadeOf ref site target t p)
    (hcopy : p.CopiedFrom r.setup.dialect.language p') : r.MadeOf ref site target t p' where
  leads := h.leads
  resolves := h.resolves
  type := hcopy.type.trans h.type
  isEnum := hcopy.isEnum.trans h.isEnum
  items := hcopy.items ▸ h.items
  enumConstants := by
    rw [propertyConstants, hcopy.items, hcopy.enumConstants]
    exact h.enumConstants
  initializes := by
    rw [hcopy.initializer, hcopy.defaultValue]
    exact h.initializes
  annotatedType := by
    rw [hcopy.annotatedType, hcopy.type, hcopy.items]
    exact h.annotatedType
  annotatedTypeWithEnum hjava := by
    rw [hcopy.annotatedTypeWithEnum hjava, hcopy.type, hcopy.items]
    exact h.annotatedTypeWithEnum hjava

lemma Makes.exists_madeOf (h : r.Makes ref p) :
    ∃ target t, r.MadeOf ref .property target t p := by
  obtain ⟨name, required, s, made, imports, s', hmade, hcopy⟩ := h
  obtain ⟨target, t, hof, -⟩ := exists_madeOf_of_property hmade
  exact ⟨target, t, hof.copy hcopy⟩

/-- The properties of a shape are made from its schemas. -/
lemma exists_makes_of_properties {shape : Shape} {ps : List Property} {imports : NameSet}
    (h : r.properties shape s = .ok ((ps, imports), s')) : ∀ p ∈ ps, ∃ ref, r.Makes ref p := by
  intro p hp
  obtain ⟨name, ref, required, more, t, t', hmade, -⟩ := exists_property_of_mem h hp
  exact ⟨ref, name, required, t, p, more, t', hmade, .refl p⟩

/-- So are the properties of a draft. An enumeration has none. -/
lemma exists_makes_of_draft {d : Draft} (h : r.draft key classname schema s = .ok (d, s')) :
    ∀ p ∈ d.model.vars, ∃ ref, r.Makes ref p := by
  intro p hp
  cases drafted_of_draft h with
  | enum => exact (List.not_mem_nil hp).elim
  | @«class» _ _ _ _ _ discriminator _ _ _ _ hvars =>
    obtain ⟨_, _, hvars⟩ := hvars
    obtain ⟨q, hq, rfl⟩ := List.mem_map.1 hp
    obtain ⟨ref, hmade⟩ := exists_makes_of_properties hvars q hq
    refine ⟨ref, hmade.copy ?_⟩
    obtain heq | heq := q.markedBy_eq discriminator
    · exact heq.symm ▸ .refl q
    · exact heq.symm ▸ ⟨rfl, rfl, rfl, rfl, rfl, rfl, rfl, fun _ => rfl⟩

namespace Builds

variable {ds folded : Drafts} {g : Property → Property} {models : List Model}

/-- Interfaces hand on what was made from a schema. -/
lemma exists_makes_of_lifted (h : Builds r ds folded g models) : ∀ key alone,
    (r.lifted ds).find? key = some alone → ∀ p ∈ alone.model.vars, ∃ ref, r.Makes ref p := by
  refine Drafts.liftInterfaces_induction (fun key d hd p hp => ?_)
    fun key d parent i hd hi _ _ p hp => ?_
  · rw [Setup.find?_linkInterfaces] at hd
    obtain ⟨draft, hdraft, rfl⟩ := Option.map_eq_some_iff.1 hd
    obtain ⟨q, hq, hcopy⟩ := r.setup.exists_copiedFrom_of_mem_linked hp
    obtain ⟨t, t', hdrafts⟩ := h.drafts
    obtain ⟨e, -, -, schema, -, t₁, t₂, hof⟩ := (exists_draft_of_drafts hdrafts).2.2 key draft hdraft
    obtain ⟨ref, hq⟩ := exists_makes_of_draft hof q hq
    exact ⟨ref, hq.copy hcopy⟩
  · rw [Draft.liftInterface, Model.vars_withInterface] at hp
    rcases mem_addNewBy hp with hp | hp
    · exact hd p hp
    · obtain ⟨q, hq, rfl⟩ := List.mem_map.1 hp
      obtain ⟨ref, hq⟩ := hi q hq
      exact ⟨ref, hq.copy (q.copiedFrom_fromInterface _ _)⟩

end Builds

/-! ## Folded models -/

/-- Every property in a list of a model is made from a schema. -/
def Sources (r : Resolver) (m : Model) : Prop :=
  ∀ ps ∈ m.propertyLists, ∀ p ∈ ps.2, ∃ ref, r.Makes ref p

/-- So is everything in the lists that a model takes from its parent. -/
lemma sources_fold {d : Draft} {parent : Option Draft}
    (hvars : ∀ p ∈ d.model.vars, ∃ ref, r.Makes ref p)
    (hparent : ∀ q, parent = some q → r.Sources q.model ∧ ∀ p ∈ q.inheritedArgs, ∃ ref, r.Makes ref p) :
    r.Sources (r.setup.fold d parent).model ∧
      ∀ p ∈ (r.setup.fold d parent).inheritedArgs, ∃ ref, r.Makes ref p := by
  have hmodel : r.Sources ((parent.map (·.model)).getD {}) := by
    cases parent with
    | none => simp [Sources, Model.propertyLists]
    | some q => exact (hparent q rfl).1
  have hargs : ∀ p ∈ (parent.map (·.inheritedArgs)).getD [], ∃ ref, r.Makes ref p := by
    cases parent with
    | none => exact fun p hp => (List.not_mem_nil hp).elim
    | some q => exact (hparent q rfl).2
  have hown {inherited : List Property} :
      ∀ p ∈ Setup.ownRequired d inherited, ∃ ref, r.Makes ref p :=
    fun p hp => hvars p (List.mem_of_mem_filter hp)
  have hownArgs {inherited : List Property} : ∀ p ∈ (Setup.ownRequired d inherited).filter
      (·.facets.inRequiredArgsConstructor), ∃ ref, r.Makes ref p :=
    fun p hp => hown p (List.mem_of_mem_filter hp)
  have hnew {ps more : List Property} (hps : ∀ p ∈ ps, ∃ ref, r.Makes ref p)
      (hmore : ∀ p ∈ more, ∃ ref, r.Makes ref p) :
      ∀ p ∈ appendNew ps more, ∃ ref, r.Makes ref p :=
    fun p hp => (mem_addNewBy hp).elim (hps p) (hmore p)
  simp only [Sources, Model.propertyLists, List.forall_mem_cons] at hmodel
  obtain ⟨-, hall, -, -, -, -, -, hwithout, -, htaken, -, -⟩ := hmodel
  refine ⟨?_, hnew hargs hownArgs⟩
  simp only [Sources, Model.propertyLists, List.forall_mem_cons]
  refine ⟨hvars, fun p hp => (Property.mem_overrideAll hp).elim (hall p) (hvars p), hall, ?_, ?_, ?_, ?_,
    hnew hown hwithout, fun p hp => ?_, hnew hownArgs hargs, htaken,
    fun _ hps => (List.not_mem_nil hps).elim⟩
  iterate 4 exact fun p hp => hvars p (List.mem_of_mem_filter hp)
  obtain ⟨q, hq, rfl⟩ := List.mem_map.1 hp
  obtain ⟨ref, hq⟩ := hwithout q hq
  exact ⟨ref, hq.copy (r.setup.copiedFrom_inheritedProperty q)⟩

namespace Builds

variable {ds folded : Drafts} {g : Property → Property} {models : List Model}
  {alone last : Draft} {m : Model}

/-- **Every property in a list of a model is made from a schema.** -/
theorem sources (h : Builds r ds folded g models) (hm : m ∈ models) : r.Sources m := by
  obtain ⟨key, d, alone, last, hway, hfinished⟩ := h.exists_way_of_mem hm
  have hlast : r.Sources last.model ∧ ∀ p ∈ last.inheritedArgs, ∃ ref, r.Makes ref p := by
    refine h.parent_induction (fun last => r.Sources last.model ∧
      ∀ p ∈ last.inheritedArgs, ∃ ref, r.Makes ref p) (fun {key d alone last} hway ih => ?_)
      hway.fold
    rw [hway.eq_fold]
    exact sources_fold (h.exists_makes_of_lifted key alone hway.lift) ih
  obtain ⟨_, _, _, rfl⟩ := hfinished
  intro ps hps p hp
  obtain ⟨qs, hqs, rfl⟩ : ∃ qs ∈ last.model.propertyLists, ps = (qs.1, qs.2.map g) := by
    simp only [Model.propertyLists, Model.mapped, List.mem_cons, List.not_mem_nil, or_false] at hps ⊢
    simp only [exists_eq_or_imp, exists_eq_left]
    exact hps
  obtain ⟨q, hq, rfl⟩ := List.mem_map.1 hp
  obtain ⟨ref, hq⟩ := hlast.1 qs hqs q hq
  exact ⟨ref, hq.copy (h.finishing q).copiedFrom⟩

end Builds

end Resolver

end ApiLowering
