import ApiLowering.Proofs.Document.Samples
import ApiLowering.Proofs.Models.Built

/-!
# Implementors

A model records the interfaces that it implements in four places: it lists them twice, its templates
are told of them, and each of its properties shows them. Interfaces that list the model are recorded
in all places. After that a model may get one more interface, the one that its schema extends, and
copies of the properties of that interface. This interface is added to the two lists alone, and the
copies show what the properties of the interface show.

## Main definitions

* `Model.Records` — what a model records of its interfaces, place by place.
* `Model.listing` — the interfaces that list a model.
* `Model.AgreesOnInterfaces` — the four places agree.

## Main results

* `Setup.records_linked` — what linking records.
* `Document.implementors_of_lowered` — what every model of a program records, and when its places
  agree.
* `Document.extended_interface_is_not_announced` — a model whose places do not agree.
-/

namespace ApiLowering

/-! ## Records -/

/-- The extension that tells the templates of a model which interfaces it implements. -/
def Model.implementsKey : String := "x-implements"

/-- What a model records of the interfaces that it implements: their names, twice, and what its
templates are told. -/
structure Model.Records (m : Model) (names : List String) (told : Option Json) : Prop where
  interfaces : m.interfaces = names
  implemented : m.facets.implemented = names
  told : m.vendorExtensions.find? Model.implementsKey = told

/-- All properties of a model show some interfaces. -/
def Model.Shows (m : Model) (names : List String) : Prop :=
  ∀ p ∈ m.vars, p.facets.implemented = names

/-- What the templates of a model are told of some interfaces, or else of what its schema says. -/
def Model.toldOf (names : List String) (told : Option Json) : Option Json :=
  if names = [] then told else some (.ofStrings names)

/-- If nothing is said in a schema, templates are told of interfaces just if there are any. -/
lemma Model.toldOf_eq_iff {names names' : List String} {told : Option Json}
    (htold : names = [] → told = none) :
    toldOf names told = some (.ofStrings names') ↔ names ≠ [] ∧ names = names' := by
  rw [toldOf]
  split
  · rename_i hnil
    simp [htold hnil, hnil]
  · rename_i hne
    rw [Option.some.injEq, Json.ofStrings, Json.ofStrings, Json.array.injEq, and_iff_right hne]
    exact (List.map_injective_iff.2 fun _ _ => Json.string.inj).eq_iff

section Records

variable {m : Model} {names : List String} {told : Option Json}

/-- One more interface is listed, unless it is listed already. -/
lemma Model.Records.withInterface (h : m.Records names told) (interface : String) :
    (m.withInterface interface).Records (addNew names [interface]) told := by
  have hcontains : m.facets.implemented.contains interface = true ↔ interface ∈ names := by
    rw [h.implemented, List.contains_iff_mem]
  rw [Model.withInterface, addNew_singleton]
  by_cases hmem : interface ∈ names
  · rw [if_pos (hcontains.2 hmem), if_pos hmem]
    exact h
  · rw [if_neg (mt hcontains.1 hmem), if_neg hmem]
    refine ⟨?_, ?_, h.told⟩
    · exact congrArg (· ++ [interface]) h.interfaces
    · exact congrArg (· ++ [interface]) h.implemented

/-- Announcing interfaces tells the templates, and all properties show them. -/
lemma Model.Records.announceInterfaces (h : m.Records names told) (hshows : m.Shows []) :
    m.announceInterfaces.Records names (toldOf names told) ∧ m.announceInterfaces.Shows names := by
  rw [Model.announceInterfaces, toldOf, h.implemented]
  cases names with
  | nil => exact ⟨h, hshows⟩
  | cons name rest =>
    refine ⟨⟨h.interfaces, h.implemented, Table.find?_insert_self ..⟩, fun p hp => ?_⟩
    obtain ⟨q, -, rfl⟩ := List.mem_map.1 hp
    rfl

end Records

/-! ## Linking -/

/-- An interface lists a model, among its alternatives or those that its discriminator maps to. -/
def InterfaceLink.lists (link : InterfaceLink) (classname : String) : Bool :=
  classname != link.classname && link.members.contains classname

/-- The classes of the interfaces that list a model, each once. -/
def InterfaceLink.listing (links : List InterfaceLink) (classname : String) : List String :=
  addNew [] ((links.filter (·.lists classname)).map (·.classname))

namespace Setup

variable (setup : Setup)

/-- Marks do not change what a property shows. -/
lemma implemented_discriminating (d : ModelDiscriminator) (p : Property) :
    (setup.discriminating d p).facets.implemented = p.facets.implemented := by
  rw [discriminating]
  split <;> rfl

section Records

variable {m : Model} {names shown : List String} {told : Option Json}

/-- An interface is recorded by the models that it lists. -/
lemma records_implement (h : m.Records names told) (hshows : m.Shows shown)
    (link : InterfaceLink) : (setup.implement link m).Records
      (if link.lists m.classname then addNew names [link.classname] else names) told ∧
      (setup.implement link m).Shows shown := by
  have hlists : (m.classname == link.classname || !link.members.contains m.classname) =
      !link.lists m.classname := by
    rw [InterfaceLink.lists, bne, Bool.not_and, Bool.not_not]
  rw [implement, hlists]
  cases link.lists m.classname with
  | false => exact ⟨h, hshows⟩
  | true =>
    have hnew := h.withInterface link.classname
    have hvars : (m.withInterface link.classname).Shows shown := by
      rw [Model.Shows, Model.vars_withInterface]
      exact hshows
    cases link.discriminator with
    | none => exact ⟨hnew, hvars⟩
    | some d =>
      refine ⟨⟨hnew.interfaces, hnew.implemented, hnew.told⟩, fun p hp => ?_⟩
      obtain ⟨q, hq, rfl⟩ := List.mem_map.1 hp
      rw [apply_ite Property.facets, apply_ite PropertyFacets.implemented,
        implemented_discriminating, ite_self]
      exact hvars q hq

lemma records_implementAll (h : m.Records names told) (hshows : m.Shows shown)
    (links : List InterfaceLink) : (setup.implementAll links m).Records
      (addNew names ((links.filter (·.lists m.classname)).map (·.classname))) told ∧
      (setup.implementAll links m).Shows shown := by
  induction links generalizing m names with
  | nil => exact ⟨h, hshows⟩
  | cons link links ih =>
    obtain ⟨hrecords, hshows'⟩ := setup.records_implement h hshows link
    have hstep := ih hrecords hshows'
    rw [(setup.linkedFrom_implement link m).classname] at hstep
    rw [List.filter_cons]
    split at hstep <;> rename_i hlists
    · rw [if_pos hlists]
      exact hstep
    · rw [if_neg hlists]
      exact hstep

/-- **What linking records**: the interfaces that list a model, everywhere. -/
theorem records_linked (h : m.Records [] told) (hshows : m.Shows []) (links : List InterfaceLink) :
    (setup.linked links m).Records (InterfaceLink.listing links m.classname)
      (Model.toldOf (InterfaceLink.listing links m.classname) told) ∧
      (setup.linked links m).Shows (InterfaceLink.listing links m.classname) := by
  obtain ⟨hrecords, hshows'⟩ := setup.records_implementAll h hshows links
  exact hrecords.announceInterfaces hshows'

end Records

end Setup

/-! ## Drafts -/

namespace Resolver

variable {r : Resolver} {key classname : String} {schema : Schema} {s s' : Session}

/-- A property shows no interfaces at first. -/
lemma implemented_property {name : String} {ref : SchemaRef} {required : Bool} {site : DefaultSite}
    {p : Property} {imports : NameSet}
    (h : r.property name ref required site s = .ok ((p, imports), s')) :
    p.facets.implemented = [] := by
  obtain ⟨own, t, _, _, target, described, _, _, _, _, _, -, -, -, hdescribed, -, -, -, rfl, -⟩ :=
    property_eq_ok_iff.1 h
  have hfacets : described.facets.implemented = [] := by
    rw [← hdescribed, describedProperty]
    cases describing ref target t <;> rfl
  exact hfacets

lemma implemented_properties {shape : Shape} {ps : List Property} {imports : NameSet}
    (h : r.properties shape s = .ok ((ps, imports), s')) :
    ∀ p ∈ ps, p.facets.implemented = [] := by
  intro p hp
  obtain ⟨_, _, _, _, _, _, hmade, -⟩ := exists_property_of_mem h hp
  exact implemented_property hmade

/-- **A draft records no interfaces**, but what its schema says. -/
theorem records_draft {d : Draft} (h : r.draft key classname schema s = .ok (d, s')) :
    d.model.Records [] (schema.vendorExtensions.find? Model.implementsKey) ∧ d.model.Shows [] := by
  cases drafted_of_draft h with
  | enum => exact ⟨⟨rfl, rfl, rfl⟩, fun p hp => (List.not_mem_nil hp).elim⟩
  | @«class» _ _ _ _ _ discriminator _ _ _ _ hvars =>
    obtain ⟨_, _, hvars⟩ := hvars
    have htold : (if r.isInterface schema then
        schema.vendorExtensions.insert "x-is-one-of-interface" (.bool true)
        else schema.vendorExtensions).find? Model.implementsKey =
          schema.vendorExtensions.find? Model.implementsKey := by
      split
      · exact Table.find?_insert_of_ne _ _ (by decide)
      · rfl
    refine ⟨⟨rfl, rfl, htold⟩, fun p hp => ?_⟩
    obtain ⟨q, hq, rfl⟩ := List.mem_map.1 hp
    have hshows := implemented_properties hvars q hq
    obtain heq | heq := q.markedBy_eq discriminator
    · rwa [heq]
    · rw [heq]
      exact hshows

end Resolver

/-! ## Models -/

/-- Annotations that are taken out of extensions are not what templates are told of interfaces. -/
lemma ExtraAnnotations.find?_under_classKey (extensions : Table Json) :
    (under classKey extensions).2.find? Model.implementsKey =
      extensions.find? Model.implementsKey := by
  rw [under]
  split
  · rfl
  · exact Table.find?_erase_of_ne _ (by decide)

namespace Model

/-- The interfaces among some models that list a model. -/
def listing (m : Model) (models : List Model) : List String :=
  InterfaceLink.listing (models.filterMap interfaceLink?) m.classname

lemma nodup_listing (m : Model) (models : List Model) : (m.listing models).Nodup :=
  nodup_addNew List.nodup_nil

/-- The four places agree: if a model lists any interfaces, its templates are told of these, and all
its properties show them. -/
def AgreesOnInterfaces (m : Model) : Prop :=
  m.facets.implemented = m.interfaces ∧ (m.interfaces ≠ [] →
    m.vendorExtensions.find? implementsKey = some (.ofStrings m.interfaces) ∧ m.Shows m.interfaces)

variable {m : Model} {names : List String} {told : Option Json}

/-- What is recorded everywhere agrees. -/
lemma Records.agreesOnInterfaces (h : m.Records names (toldOf names told))
    (hshows : m.Shows names) : m.AgreesOnInterfaces := by
  refine ⟨h.implemented.trans h.interfaces.symm, ?_⟩
  rw [h.interfaces, h.told]
  exact fun hne => ⟨if_neg hne, hshows⟩

/-- One more interface leaves the places in agreement just if it is none, and if the properties that
come with it show what the others do. -/
lemma Records.agreesOnInterfaces_iff {interface : String} {declared copies : List Property}
    (h : m.Records (addNew names [interface]) (toldOf names told))
    (htold : names = [] → told = none) (hvars : m.vars = declared ++ copies)
    (hdeclared : ∀ p ∈ declared, p.facets.implemented = names) :
    m.AgreesOnInterfaces ↔
      interface ∈ names ∧ ∀ p ∈ copies, p.facets.implemented = m.interfaces := by
  have hmem : interface ∈ m.interfaces :=
    h.interfaces ▸ mem_addNew_of_mem (List.mem_singleton_self _)
  rw [AgreesOnInterfaces, and_iff_right (h.implemented.trans h.interfaces.symm),
    imp_iff_right (List.ne_nil_of_mem hmem), h.told, toldOf_eq_iff htold, Shows, hvars,
    List.forall_mem_append]
  constructor
  · rintro ⟨⟨-, heq⟩, -, hcopies⟩
    exact ⟨heq ▸ hmem, hcopies⟩
  · rintro ⟨hlisted, hcopies⟩
    have heq : m.interfaces = names := by
      rw [h.interfaces, addNew_singleton, if_pos hlisted]
    rw [heq] at hcopies ⊢
    exact ⟨⟨List.ne_nil_of_mem hlisted, rfl⟩, hdeclared, hcopies⟩

end Model

namespace Resolver

variable {r : Resolver} {ds folded : Drafts} {g : Property → Property} {models : List Model}
  {key : String} {d alone last : Draft} {m : Model}

/-- What a model records is what was recorded before it was folded. -/
lemma Way.recorded {names : List String} {told : Option Json}
    (hway : Way r ds folded key d alone last) (hm : last.model.FinishedFrom g m)
    (hextensions : m.vendorExtensions =
      (ExtraAnnotations.under ExtraAnnotations.classKey last.model.vendorExtensions).2)
    (h : alone.model.Records names told) : m.Records names told := by
  have htold : m.vendorExtensions.find? Model.implementsKey =
      last.model.vendorExtensions.find? Model.implementsKey := by
    rw [hextensions, ExtraAnnotations.find?_under_classKey]
  rw [hway.eq_fold] at htold hm
  obtain ⟨_, _, _, rfl⟩ := hm
  exact ⟨h.interfaces, h.implemented, htold.trans h.told⟩

/-- Models list each other as their drafts do. -/
lemma Builds.interfaceLinks_eq (h : Builds r ds folded g models) :
    models.filterMap Model.interfaceLink? = Setup.interfaceLinks ds := by
  have hmodels : ∀ m ∈ models,
      m.interfaceLink? = (ds.find? m.name).bind (·.model.interfaceLink?) := fun m hm => by
    obtain ⟨key, d, alone, last, hway, hfinished⟩ := h.exists_way_of_mem hm
    obtain ⟨hclass, hflag, hdiscriminator⟩ := hway.kept hfinished
    rw [hfinished.name.trans hway.name, hway.draft, Option.bind_some, Model.interfaceLink?,
      Model.interfaceLink?, hclass, hflag, hdiscriminator, hway.oneOf_eq hfinished]
  have hdrafts : ∀ e ∈ ds.entries,
      (ds.find? e.1).bind (·.model.interfaceLink?) = e.2.model.interfaceLink? := fun e he => by
    rw [Table.find?_eq_some_of_mem h.nodup_keys he, Option.bind_some]
  calc
    models.filterMap Model.interfaceLink?
      = (models.map (·.name)).filterMap fun key =>
          (ds.find? key).bind (·.model.interfaceLink?) := by
        rw [List.filterMap_map]
        exact List.filterMap_congr hmodels
    _ = ds.entries.filterMap (·.2.model.interfaceLink?) := by
        rw [h.names_eq, Table.keys, List.filterMap_map]
        exact List.filterMap_congr hdrafts
    _ = Setup.interfaceLinks ds := by
        rw [Setup.interfaceLinks, Table.values, List.filterMap_map]
        rfl

/-- What a model records: the interfaces that list it, and then one that its schema extends. -/
lemma Builds.recorded (h : Builds r ds folded g models) (hway : Way r ds folded key d alone last)
    (hm : last.model.FinishedFrom g m) (hextensions : m.vendorExtensions =
      (ExtraAnnotations.under ExtraAnnotations.classKey last.model.vendorExtensions).2)
    {told : Option Json} (htold : d.model.Records [] told) (hshows : d.model.Shows []) :
    (m.Records (m.listing models) (Model.toldOf (m.listing models) told) ∧
        m.Shows (m.listing models) ∧
        ∀ i ∈ models, i.isOneOfInterface = true → d.parentKey ≠ some i.name) ∨
      ∃ i ∈ models, i.isOneOfInterface = true ∧ d.parentKey = some i.name ∧
        m.Records (addNew (m.listing models) [i.classname])
          (Model.toldOf (m.listing models) told) ∧
        ∃ declared copies, m.vars = declared ++ copies ∧
          (∀ p ∈ declared, p.facets.implemented = m.listing models) ∧
          ∀ p ∈ copies, ∃ q ∈ i.vars, p.facets.implemented = q.facets.implemented := by
  have hlisting : InterfaceLink.listing (Setup.interfaceLinks ds) d.model.classname =
      m.listing models := by
    rw [Model.listing, h.interfaceLinks_eq, (hway.kept hm).1]
  obtain ⟨hlinked, hshown⟩ := r.setup.records_linked htold hshows (Setup.interfaceLinks ds)
  rw [hlisting] at hlinked hshown
  have hdeclared : ∀ p ∈ (r.setup.linked (Setup.interfaceLinks ds) d.model).vars.map g,
      p.facets.implemented = m.listing models := fun p hp => by
    obtain ⟨q, hq, rfl⟩ := List.mem_map.1 hp
    exact (h.finishing q).implemented.trans (hshown q hq)
  rcases h.lift_cases hway with
    ⟨halone, hnone⟩ | ⟨i, hi, hinterface, hparent, added, halone, hadded⟩
  · rw [← halone] at hlinked hdeclared
    refine .inl ⟨hway.recorded hm hextensions hlinked, ?_, hnone⟩
    rw [Model.Shows, hway.vars_eq hm]
    exact hdeclared
  · have hnew : alone.model.Records (addNew (m.listing models) [i.classname])
        (Model.toldOf (m.listing models) told) := by
      rw [halone]
      refine Model.Records.withInterface ?_ i.classname
      exact ⟨hlinked.interfaces, hlinked.implemented, hlinked.told⟩
    have hvars := hway.vars_eq hm
    rw [halone, Model.vars_withInterface, List.map_append] at hvars
    refine .inr ⟨i, hi, hinterface, hparent, hway.recorded hm hextensions hnew, _, _, hvars,
      hdeclared, fun p hp => ?_⟩
    obtain ⟨v, hv, rfl⟩ := List.mem_map.1 hp
    obtain ⟨w, hw, rfl⟩ := hadded v hv
    refine ⟨g w, hw, ?_⟩
    rw [(h.finishing _).implemented, (h.finishing _).implemented, Property.fromInterface]
    split <;> rfl

end Resolver

/-- **Implementors.** A model lists its interfaces twice alike, each once. They are those that list
it, of which its templates are told and which its declared properties show. If its schema extends no
interface, that is all, and the four places agree. Otherwise the interface that it extends is listed
as well, and there are copies of its properties, which show what the properties of the interface
show. Then the places agree just if this interface lists the model, and the copies show all the
interfaces of the model. -/
theorem Document.implementors_of_lowered {d : Document} {o : Options} {program : Program}
    {warnings : List String} (h : d.lowered o = .ok (program, warnings)) {m : Model}
    (hm : m ∈ program.models) :
    ∃ r s declared copies, d.resolver o = .ok r ∧ r.SchemaAt m.name s ∧
      m.vars = declared ++ copies ∧ m.facets.implemented = m.interfaces ∧ m.interfaces.Nodup ∧
      m.vendorExtensions.find? Model.implementsKey =
        Model.toldOf (m.listing program.models) (s.vendorExtensions.find? Model.implementsKey) ∧
      (∀ p ∈ declared, p.facets.implemented = m.listing program.models) ∧
      ((s.isEnum = false → ∀ i ∈ program.models, i.isOneOfInterface = true →
            ¬ ∃ t, r.HasParent s i.name t) ∧
          copies = [] ∧ m.interfaces = m.listing program.models ∧ m.AgreesOnInterfaces ∨
        s.isEnum = false ∧ ∃ i ∈ program.models, i.isOneOfInterface = true ∧
          (∃ t, r.HasParent s i.name t) ∧
          m.interfaces = addNew (m.listing program.models) [i.classname] ∧
          (∀ p ∈ copies, ∃ q ∈ i.vars, p.facets.implemented = q.facets.implemented) ∧
          ((m.listing program.models = [] →
              s.vendorExtensions.find? Model.implementsKey = none) →
            (m.AgreesOnInterfaces ↔ i.classname ∈ m.listing program.models ∧
              ∀ p ∈ copies, p.facets.implemented = m.interfaces))) := by
  obtain ⟨r, ds, folded, g, hr, hbuilds, hall⟩ := extensions_of_lowered h
  obtain ⟨_, hmem, hfinished, hextensions⟩ := exists_mem_right_of_forall₂ hall hm
  obtain ⟨key, draft, alone, last, hway, rfl⟩ := hbuilds.exists_way_of_mem_folded hmem
  obtain ⟨t, t', hdrafts⟩ := hbuilds.drafts
  obtain ⟨e, -, -, s, hs, u, u', hdraft⟩ :=
    (Resolver.exists_draft_of_drafts hdrafts).2.2 key draft hway.draft
  have hparent {i : Model} : draft.parentKey = some i.name ↔
      s.isEnum = false ∧ ∃ t, r.HasParent s i.name t :=
    (Resolver.draft_spec hdraft).parentKey_eq_some_iff
  have hname : m.name = key := hfinished.name.trans hway.name
  obtain ⟨htold, hshows⟩ := Resolver.records_draft hdraft
  rcases hbuilds.recorded hway hfinished hextensions htold hshows with
    ⟨hrecords, hshown, hnone⟩ |
    ⟨i, hi, hinterface, hextended, hrecords, declared, copies, hvars, hdeclared, hcopies⟩
  · refine ⟨r, s, m.vars, [], hr, hname ▸ hs, (List.append_nil _).symm,
      hrecords.implemented.trans hrecords.interfaces.symm, ?_, hrecords.told, hshown, .inl
      ⟨fun hclass i hi hinterface hextended => ?_, rfl, hrecords.interfaces,
        hrecords.agreesOnInterfaces hshown⟩⟩
    · exact hrecords.interfaces ▸ m.nodup_listing _
    · exact hnone i hi hinterface (hparent.2 ⟨hclass, hextended⟩)
  · obtain ⟨hclass, hextended⟩ := hparent.1 hextended
    refine ⟨r, s, declared, copies, hr, hname ▸ hs, hvars,
      hrecords.implemented.trans hrecords.interfaces.symm, ?_, hrecords.told, hdeclared, .inr
      ⟨hclass, i, hi, hinterface, hextended, hrecords.interfaces, hcopies, fun hnone => ?_⟩⟩
    · exact hrecords.interfaces ▸ nodup_addNew (m.nodup_listing _)
    · exact hrecords.agreesOnInterfaces_iff hnone hvars hdeclared

/-- A dog that extends an interface is like that. -/
theorem Document.implementors_of_lowered_dog : ∃ program warnings m r s declared copies,
    namedPets.lowered {} = .ok (program, warnings) ∧ (m ∈ program.models ∧ m.name = "Dog") ∧
    namedPets.resolver {} = .ok r ∧ r.SchemaAt m.name s ∧ m.vars = declared ++ copies ∧
    m.facets.implemented = m.interfaces ∧ m.interfaces.Nodup ∧
    m.vendorExtensions.find? Model.implementsKey =
      Model.toldOf (m.listing program.models) (s.vendorExtensions.find? Model.implementsKey) ∧
    (∀ p ∈ declared, p.facets.implemented = m.listing program.models) ∧
    ((s.isEnum = false → ∀ i ∈ program.models, i.isOneOfInterface = true →
          ¬ ∃ t, r.HasParent s i.name t) ∧
        copies = [] ∧ m.interfaces = m.listing program.models ∧ m.AgreesOnInterfaces ∨
      s.isEnum = false ∧ ∃ i ∈ program.models, i.isOneOfInterface = true ∧
        (∃ t, r.HasParent s i.name t) ∧
        m.interfaces = addNew (m.listing program.models) [i.classname] ∧
        (∀ p ∈ copies, ∃ q ∈ i.vars, p.facets.implemented = q.facets.implemented) ∧
        ((m.listing program.models = [] → s.vendorExtensions.find? Model.implementsKey = none) →
          (m.AgreesOnInterfaces ↔ i.classname ∈ m.listing program.models ∧
            ∀ p ∈ copies, p.facets.implemented = m.interfaces))) := by
  obtain ⟨program, warnings, h, m, hm, hname⟩ := exists_lowered (d := namedPets) (o := {})
    (P := fun program => ∃ m ∈ program.models, m.name = "Dog") (by decide +kernel)
  obtain ⟨r, s, declared, copies, hspec⟩ := implementors_of_lowered h hm
  exact ⟨program, warnings, m, r, s, declared, copies, h, ⟨hm, hname⟩, hspec⟩

/-- **An interface may not be announced.** A dog that extends the interface lists it, but neither
its templates nor its properties know. -/
theorem Document.extended_interface_is_not_announced : ∃ program warnings,
    namedPets.lowered {} = .ok (program, warnings) ∧
    ∃ m ∈ program.models, m.name = "Dog" ∧ m.interfaces = ["Pet"] ∧
      m.vendorExtensions.find? Model.implementsKey = none ∧
      ∀ p ∈ m.vars, p.facets.implemented = [] :=
  exists_lowered (by decide +kernel)

end ApiLowering
