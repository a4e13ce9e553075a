import ApiLowering.Proofs.Document.Samples
import ApiLowering.Proofs.Models.Gathering
import ApiLowering.Proofs.Models.Inheritance

/-!
# The properties of models

The model of a schema has no property that the schema does not gather, and it has all that the
schema collects, unless two names become one. So it has everything that the schema gathers if
nothing of that is in a part that is neither copied nor extended.

## Main results

* `Resolver.Builds.describes_allVars` — every property of a model is gathered.
* `Resolver.Builds.mem_baseNames_of_collects` — everything that is collected is a property.
* `Document.baseNames_of_lowered` — the properties of the models of all programs.
* `Document.gathered_name_is_lost` — a property that a model lacks.
-/

namespace ApiLowering

open Schema

namespace Resolver

variable {r : Resolver} {s t : Schema} {key classname name : String}

namespace Builds

variable {ds folded : Drafts} {g : Property → Property} {models : List Model}
  {d alone last : Draft}

/-! ### What is gathered -/

/-- When interfaces have ceased to be parents, every property is gathered. -/
lemma describes_alone (h : Builds r ds folded g models) :
    ∀ key alone, (r.lifted ds).find? key = some alone → ∃ s, r.SchemaAt key s ∧
      (∀ parent, alone.parentKey = some parent → ∃ t, r.HasParent s parent t) ∧
      ∀ p ∈ alone.model.vars, r.Describes s p := by
  refine Drafts.liftInterfaces_induction (fun key d hd => ?_)
    fun key d parent p hown hinterface hlink _ => ?_
  · rw [Setup.find?_linkInterfaces] at hd
    obtain ⟨draft, hdraft, rfl⟩ := Option.map_eq_some_iff.1 hd
    obtain ⟨s, classname, hs, hof⟩ := h.exists_draftOf hdraft
    refine ⟨s, hs, fun parent hparent => hof.hasParent hparent, fun v hv => ?_⟩
    obtain ⟨f, hf, hvars⟩ := (r.setup.linkedFrom_linked (Setup.interfaceLinks ds) draft.model).vars
    rw [Setup.onModel, hvars] at hv
    obtain ⟨w, hw, rfl⟩ := List.mem_map.1 hv
    exact (hof.describes w hw).of_eq (hf w).name (hf w).baseName
  · obtain ⟨s, hs, hparents, hvars⟩ := hown
    obtain ⟨t', ht', -, hvars'⟩ := hinterface
    obtain ⟨t, ht⟩ := hparents parent hlink
    obtain rfl := ht.schemaAt.unique ht'
    refine ⟨s, hs, fun _ hnone => ?_, fun v hv => ?_⟩
    · cases hnone
    · rw [Draft.liftInterface, Model.vars_withInterface] at hv
      rcases mem_addNewBy hv with hv | hv
      · exact hvars v hv
      · obtain ⟨w, hw, rfl⟩ := List.mem_map.1 hv
        exact ((hvars' w hw).of_parent ht).of_eq (w.name_fromInterface _)
          (w.baseName_fromInterface _)

/-- Every property of a folded draft is gathered. -/
lemma describes_allVars (h : Builds r ds folded g models) (hlast : folded.find? key = some last)
    (hs : r.SchemaAt key s) : ∀ p ∈ last.model.allVars, r.Describes s p := by
  have hname : last.model.name = key := by
    obtain ⟨d, alone, hway⟩ := h.exists_way_of_find? hlast
    exact hway.name
  suffices ∀ s, r.SchemaAt last.model.name s → ∀ p ∈ last.model.allVars, r.Describes s p from
    this s (hname ▸ hs)
  refine h.parent_induction (fun last => ∀ s, r.SchemaAt last.model.name s →
    ∀ p ∈ last.model.allVars, r.Describes s p)
    (fun {key d alone last} hway ih s hs p hp => ?_) hlast
  obtain ⟨s', hs', hparents, hvars⟩ := h.describes_alone key alone hway.lift
  obtain rfl := (hway.name ▸ hs).unique hs'
  rw [hway.eq_fold] at hp
  rcases Property.mem_overrideAll hp with hp | hp
  · cases hfound : folded.parent? alone with
    | none =>
      rw [hfound] at hp
      cases hp
    | some parent =>
      rw [hfound] at hp
      obtain ⟨k, hk, hfind⟩ := Option.bind_eq_some_iff.1 hfound
      obtain ⟨t, ht⟩ := hparents k hk
      obtain ⟨d', alone', hway'⟩ := h.exists_way_of_find? hfind
      exact (ih parent hfound t (hway'.name.symm ▸ ht.schemaAt) p hp).of_parent ht
  · exact hvars p hp

/-! ### What is collected -/

/-- A name that is inherited or declared is not lost by overriding. -/
lemma mem_baseNames_of_mem (h : Builds r ds folded g models)
    (hway : Way r ds folded key d alone last) (hs : r.SchemaAt key s) (htells : r.TellsApart s)
    {v : Property} (hv : v ∈ (((folded.parent? alone).map Draft.model).getD {}).allVars ∨
      v ∈ alone.model.vars) : v.baseName ∈ last.model.allVars.map (·.baseName) := by
  obtain ⟨s', hs', hparents, hvars⟩ := h.describes_alone key alone hway.lift
  obtain rfl := hs.unique hs'
  have hdescribes : r.Describes s v := by
    rcases hv with hv | hv
    · cases hfound : folded.parent? alone with
      | none =>
        rw [hfound] at hv
        cases hv
      | some parent =>
        rw [hfound] at hv
        obtain ⟨k, hk, hfind⟩ := Option.bind_eq_some_iff.1 hfound
        obtain ⟨t, ht⟩ := hparents k hk
        exact (h.describes_allVars hfind ht.schemaAt v hv).of_parent ht
    · exact hvars v hv
  refine htells.mem_baseNames (h.describes_allVars hway.fold hs) hdescribes ?_
  rw [hway.eq_fold]
  change v.name ∈ (overrideAll _ _).map (·.name)
  rw [Property.overrideAll_eq (h.nodup_names_inherited alone), Property.mem_names_overridden]
  exact hv.imp List.mem_map_of_mem List.mem_map_of_mem

/-- What a draft declares is there when it is linked to interfaces. -/
lemma exists_mem_linked_of_declares (ds : Drafts) (hof : DraftOf r key classname s d)
    (hclass : s.isEnum = false) (hdeclares : r.Declares s name) :
    ∃ v ∈ (Setup.onModel (r.setup.linked (Setup.interfaceLinks ds)) d).model.vars,
      v.baseName = name := by
  obtain ⟨v, hv, rfl⟩ := List.mem_map.1 ((hof.declares_iff hclass).2 hdeclares)
  obtain ⟨f, hf, hvars⟩ := (r.setup.linkedFrom_linked (Setup.interfaceLinks ds) d.model).vars
  refine ⟨f v, ?_, (hf v).baseName⟩
  rw [Setup.onModel, hvars]
  exact List.mem_map_of_mem hv

/-- What a model declares is there. -/
lemma mem_baseNames_of_declares (h : Builds r ds folded g models)
    (hway : Way r ds folded key d alone last) (hs : r.SchemaAt key s) (hclass : s.isEnum = false)
    (htells : r.TellsApart s) (hdeclares : r.Declares s name) :
    name ∈ last.model.allVars.map (·.baseName) := by
  obtain ⟨classname, hof⟩ := h.draftOf hway.draft hs
  obtain ⟨v, hv, rfl⟩ := exists_mem_linked_of_declares ds hof hclass hdeclares
  exact h.mem_baseNames_of_mem hway hs htells (.inr (hway.liftedFrom.kept.2.2.2.2.subset hv))

/-- The parent of a schema is the parent of its draft, and has a draft. -/
lemma exists_parent (h : Builds r ds folded g models) (hd : ds.find? key = some d)
    (hs : r.SchemaAt key s) (hclass : s.isEnum = false) {parent : String}
    (hparent : r.HasParent s parent t) : d.parentKey = some parent ∧
      ∃ p classname, ds.find? parent = some p ∧ DraftOf r parent classname t p := by
  obtain ⟨classname, hof⟩ := h.draftOf hd hs
  have hlink := hof.parentKey_eq_some_iff.2 ⟨hclass, t, hparent⟩
  have ht := hparent.schemaAt
  obtain ⟨targets, htargets, hkey, -⟩ := hparent
  obtain ⟨-, -, hextensible⟩ := exists_of_parentKey? hkey
  obtain ⟨entry, hentry, -⟩ := (Option.any_eq_true _ _).1 hextensible
  obtain ⟨u, u', hdrafts⟩ := h.drafts
  have hmem : parent ∈ ds.keys := (drafts_spec hdrafts).2.1 _ (Table.mem_of_find?_eq_some hentry)
  obtain ⟨p, hp⟩ := Option.isSome_iff_exists.1 (Table.contains_iff.2 hmem)
  obtain ⟨classname', hof'⟩ := h.draftOf hp ht
  exact ⟨hlink, p, classname', hp, hof'⟩

/-- What a parent that is a class has is inherited. -/
lemma mem_baseNames_of_parent (h : Builds r ds folded g models)
    (hway : Way r ds folded key d alone last) (hs : r.SchemaAt key s) (htells : r.TellsApart s)
    {parent : String} {p : Draft} (hlink : d.parentKey = some parent)
    (hp : ds.find? parent = some p) (hflag : p.model.isOneOfInterface = false)
    (hname : ∀ plast, folded.find? parent = some plast →
      name ∈ plast.model.allVars.map (·.baseName)) :
    name ∈ last.model.allVars.map (·.baseName) := by
  have hnone : ∀ q, ¬ Drafts.HasInterface (r.setup.linkInterfaces ds)
      (Setup.onModel (r.setup.linked (Setup.interfaceLinks ds)) d) q := by
    rintro q ⟨hq, hinterface⟩
    rw [Drafts.parent?, Setup.onModel, hlink, Option.bind_some, Setup.find?_linkInterfaces, hp,
      Option.map_some, Option.some.injEq] at hq
    subst hq
    rw [Setup.onModel, (r.setup.linkedFrom_linked _ p.model).isOneOfInterface, hflag] at hinterface
    cases hinterface
  have hlink' : alone.parentKey = some parent :=
    hway.liftedFrom.parentKey_eq_some_iff.2 ⟨hlink, hnone⟩
  obtain ⟨_, _, plast, hway'⟩ := h.exists_way (Table.mem_keys_of_find? hp)
  obtain ⟨v, hv, rfl⟩ := List.mem_map.1 (hname plast hway'.fold)
  refine h.mem_baseNames_of_mem hway hs htells (.inl ?_)
  rw [Drafts.parent?, hlink', Option.bind_some, hway'.fold]
  exact hv

/-- What an interface declares is copied. -/
lemma mem_baseNames_of_interface (h : Builds r ds folded g models)
    (hway : Way r ds folded key d alone last) (hs : r.SchemaAt key s) (htells : r.TellsApart s)
    {parent : String} (hparent : r.HasParent s parent t) {p : Draft}
    (hlink : d.parentKey = some parent) (hp : ds.find? parent = some p)
    (hof : DraftOf r parent classname t p) (henum : t.isEnum = false)
    (hflag : p.model.isOneOfInterface = true) (hdeclares : r.Declares t name) :
    name ∈ last.model.allVars.map (·.baseName) := by
  have hlinked := (r.setup.linkedFrom_linked (Setup.interfaceLinks ds) p.model).isOneOfInterface
  have hparent? (q : Draft) :
      (r.setup.linkInterfaces ds).parent?
          (Setup.onModel (r.setup.linked (Setup.interfaceLinks ds)) d) = some q ↔
        Setup.onModel (r.setup.linked (Setup.interfaceLinks ds)) p = q := by
    rw [Drafts.parent?, Setup.onModel, hlink, Option.bind_some, Setup.find?_linkInterfaces, hp,
      Option.map_some, Option.some.injEq]
  suffices name ∈ alone.model.vars.map (·.baseName) by
    obtain ⟨v, hv, rfl⟩ := List.mem_map.1 this
    exact h.mem_baseNames_of_mem hway hs htells (.inr hv)
  obtain ⟨s', hs', -, hvars⟩ := h.describes_alone key alone hway.lift
  obtain rfl := hs.unique hs'
  have hfrom := hway.liftedFrom
  cases hfrom with
  | stay hnone => exact absurd ⟨(hparent? _).2 rfl, hlinked.trans hflag⟩ (hnone _)
  | @lift k q now interface hk hhas hnow _ _ hbefore hafter =>
    obtain rfl := (hparent? q).1 hhas.1
    obtain rfl := Option.some.inj (hk.symm.trans hlink)
    obtain ⟨w, hw, rfl⟩ := exists_mem_linked_of_declares ds hof henum hdeclares
    obtain ⟨t', ht', -, hvars'⟩ := h.describes_alone k now hnow
    obtain rfl := hparent.schemaAt.unique ht'
    have hdescribes : r.Describes s w :=
      (hvars' w (hafter.subset (hbefore.subset hw))).of_parent hparent
    refine htells.mem_baseNames hvars hdescribes ?_
    -- the copy of the property is there, or a property of its name was
    rw [Draft.liftInterface, Model.vars_withInterface]
    have hcopy := List.mem_map_of_mem (f := (·.fromInterface interface.discriminator))
      (hbefore.subset hw)
    obtain ⟨y, hy, hname⟩ := Property.exists_namesake_mem_addNewBy hcopy
    exact List.mem_map.2 ⟨y, hy, hname.trans (w.name_fromInterface _)⟩

/-- What a model is given in any case is there when everything has been folded. -/
theorem mem_baseNames_of_collects (h : Builds r ds folded g models) (hcollects : r.Collects s name)
    (hs : r.SchemaAt key s) (hclass : s.isEnum = false) (htells : r.TellsApart s)
    (hlast : folded.find? key = some last) : name ∈ last.model.allVars.map (·.baseName) := by
  induction hcollects generalizing key last with
  | own hdeclares =>
    obtain ⟨d, alone, hway⟩ := h.exists_way_of_find? hlast
    exact h.mem_baseNames_of_declares hway hs hclass htells hdeclares
  | declared hparent henum hdeclares =>
    obtain ⟨d, alone, hway⟩ := h.exists_way_of_find? hlast
    obtain ⟨hlink, p, classname, hp, hof⟩ := h.exists_parent hway.draft hs hclass hparent
    cases hflag : p.model.isOneOfInterface with
    | true =>
      exact h.mem_baseNames_of_interface hway hs htells hparent hlink hp hof henum hflag hdeclares
    | false =>
      refine h.mem_baseNames_of_parent hway hs htells hlink hp hflag fun plast hplast => ?_
      obtain ⟨d', alone', hway'⟩ := h.exists_way_of_find? hplast
      exact h.mem_baseNames_of_declares hway' hparent.schemaAt henum (htells.of_parent hparent)
        hdeclares
  | inherited hparent henum hinterface _ ih =>
    obtain ⟨d, alone, hway⟩ := h.exists_way_of_find? hlast
    obtain ⟨hlink, p, classname, hp, hof⟩ := h.exists_parent hway.draft hs hclass hparent
    have hflag : p.model.isOneOfInterface = false := by
      cases hof with
      | enum _ _ _ _ hflag => exact hflag
      | «class» _ _ _ hof => exact hof.isOneOfInterface.trans hinterface
    exact h.mem_baseNames_of_parent hway hs htells hlink hp hflag fun plast hplast =>
      ih hparent.schemaAt henum (htells.of_parent hparent) hplast

end Builds

end Resolver

/-! ## Programs -/

namespace Document

variable {d : Document} {o : Options} {r : Resolver} {program : Program} {warnings : List String}

/-- **The properties of a model** are gathered by its schema. As long as their names stay different,
the model has all that it collects: so it has everything that the schema gathers, if nothing of that
is in a part that is neither copied nor extended. -/
theorem baseNames_of_lowered (hr : d.resolver o = .ok r)
    (h : d.lowered o = .ok (program, warnings)) {key : String} {s : Schema}
    (hs : r.components.schemas.find? key = some (.inline s)) (hclass : s.isEnum = false) {m : Model}
    (hm : m ∈ program.models) (hname : m.name = key) :
    (∀ name ∈ m.allVars.map (·.baseName), r.components.Gathers s name) ∧
    (r.TellsApart s → ∀ name, r.Collects s name → name ∈ m.allVars.map (·.baseName)) ∧
    (r.TellsApart s → (∀ name, r.components.Gathers s name → r.Collects s name) →
      ∀ name, name ∈ m.allVars.map (·.baseName) ↔ r.components.Gathers s name) := by
  obtain ⟨r', ds, folded, g, hr', hbuilds⟩ := builds_of_lowered h
  obtain rfl := Except.ok.inj (hr.symm.trans hr')
  obtain ⟨key', draft, alone, last, hway, hfinished⟩ := hbuilds.exists_way_of_mem hm
  obtain rfl : key' = key := hway.name.symm.trans (hfinished.name.symm.trans hname)
  have hschema : r.SchemaAt key' s :=
    ⟨key', Reference.follow_eq_ok_iff.2 ⟨[key'], .here (Reference.keyIn_toSchema key') hs⟩⟩
  have hnames : m.allVars.map (·.baseName) = last.model.allVars.map (·.baseName) := by
    obtain ⟨_, _, _, rfl⟩ := hfinished
    change (last.model.allVars.map g).map (·.baseName) = _
    rw [List.map_map]
    exact List.map_congr_left fun p _ => (hbuilds.finishing p).baseName
  rw [hnames]
  have hgathered : ∀ name ∈ last.model.allVars.map (·.baseName), r.components.Gathers s name := by
    intro name hmem
    obtain ⟨p, hp, rfl⟩ := List.mem_map.1 hmem
    exact (hbuilds.describes_allVars hway.fold hschema p hp).gathered
  have hcollected (htells : r.TellsApart s) (name : String) (hcollects : r.Collects s name) :
      name ∈ last.model.allVars.map (·.baseName) :=
    hbuilds.mem_baseNames_of_collects hcollects hschema hclass htells hway.fold
  exact ⟨hgathered, hcollected, fun htells hroutes name =>
    ⟨hgathered name, fun hgathers => hcollected htells name (hroutes name hgathers)⟩⟩

/-- A dog has what it declares and what animals declare. -/
theorem baseNames_of_lowered_dog : ∃ r program warnings s m,
    family.resolver {} = .ok r ∧ family.lowered {} = .ok (program, warnings) ∧
    r.components.schemas.find? "Dog" = some (.inline s) ∧ s.isEnum = false ∧
    m ∈ program.models ∧ m.name = "Dog" ∧ r.TellsApart s ∧ r.Unbranched s ∧
    ∀ name, name ∈ m.allVars.map (·.baseName) ↔ r.components.Gathers s name := by
  obtain ⟨program, warnings, hlowered, m, hm, hname⟩ := exists_lowered (d := family) (o := {})
    (P := fun program => ∃ m ∈ program.models, m.name = "Dog") (by decide +kernel)
  obtain ⟨r, hr, ⟨part, hpart, s, hs, hclass, hpaths, hkeys⟩, ⟨⟨_, t⟩, hanimal, rfl, hclass',
    hparts', hinterface, hkeys'⟩, hextensible, hnames⟩ := exists_resolver (d := family) (o := {})
    (P := fun r =>
      (∃ part ∈ r.components.schemas.find? "Dog", ∃ s ∈ part.inline?, s.isEnum = false ∧
        s.allOf.map Referable.path? = [some (Reference.toSchema "Animal")] ∧
        s.properties.keys = ["bark"]) ∧
      (∃ animal ∈ (r.components.schema (Reference.toSchema "Animal")).toOption,
        animal.1 = "Animal" ∧ animal.2.isEnum = false ∧ animal.2.allOf.isEmpty = true ∧
        r.isInterface animal.2 = false ∧ animal.2.properties.keys = ["name"]) ∧
      r.isExtensible "Animal" = true ∧
      (r.setup.names.propertyName "bark").toOption ≠ (r.setup.names.propertyName "name").toOption)
    (by decide +kernel)
  obtain rfl := Referable.eq_inline hs
  obtain ⟨ref, hallOf, href⟩ := List.map_eq_singleton_iff.1 hpaths
  obtain rfl := Referable.eq_ref href
  have hschema := eq_ok_of_mem_toOption hanimal
  have hnil := List.isEmpty_iff.1 hparts'
  have hgathers (name : String) : r.components.Gathers s name ↔ name = "bark" ∨ name = "name" := by
    rw [Components.gathers_iff_of_singleton hallOf hschema, Components.gathers_iff_of_nil hnil,
      hkeys, hkeys', List.mem_singleton, List.mem_singleton]
  have htells : r.TellsApart s := by
    intro name name' hname hname' heq
    rcases (hgathers name).1 hname with rfl | rfl <;>
      rcases (hgathers name').1 hname' with rfl | rfl
    · rfl
    · exact absurd (congrArg Except.toOption heq) hnames
    · exact absurd (congrArg Except.toOption heq).symm hnames
    · rfl
  have hunbranched : r.Unbranched s :=
    .of_singleton hallOf hschema hextensible hclass' hinterface (.of_nil hnil)
  exact ⟨r, program, warnings, s, m, hr, hlowered, hpart, hclass, hm, hname, htells, hunbranched,
    (baseNames_of_lowered hr hlowered hpart hclass hm hname).2.2 htells
      fun _ => Resolver.collects_of_gathers hunbranched⟩

/-- **A part that is neither copied nor extended is lost.** A duck is a bird and a swimmer, so
neither is its parent: it has the wings of the bird, and no name, which birds have as animals. -/
theorem gathered_name_is_lost : ∃ r program warnings s m,
    ducks.resolver {} = .ok r ∧ ducks.lowered {} = .ok (program, warnings) ∧
    r.components.schemas.find? "Duck" = some (.inline s) ∧ s.isEnum = false ∧
    m ∈ program.models ∧ m.name = "Duck" ∧
    r.components.Gathers s "name" ∧ "name" ∉ m.allVars.map (·.baseName) := by
  obtain ⟨program, warnings, hlowered, m, hm, hname, hlost⟩ := exists_lowered (d := ducks) (o := {})
    (P := fun program => ∃ m ∈ program.models, m.name = "Duck" ∧
      "name" ∉ m.allVars.map (·.baseName)) (by decide +kernel)
  obtain ⟨r, hr, ⟨part, hpart, s, hs, hclass, hbirds⟩, ⟨bird, hbird, hanimals⟩, animal, hanimal,
    hkey⟩ := exists_resolver (d := ducks) (o := {})
    (P := fun r =>
      (∃ part ∈ r.components.schemas.find? "Duck", ∃ s ∈ part.inline?, s.isEnum = false ∧
        Reference.toSchema "Bird" ∈ Resolver.partPaths s) ∧
      (∃ bird ∈ (r.components.schema (Reference.toSchema "Bird")).toOption,
        Reference.toSchema "Animal" ∈ Resolver.partPaths bird.2) ∧
      ∃ animal ∈ (r.components.schema (Reference.toSchema "Animal")).toOption,
        "name" ∈ animal.2.properties.keys)
    (by decide +kernel)
  obtain rfl := Referable.eq_inline hs
  have hgathers : r.components.Gathers s "name" :=
    .target (.part (Resolver.mem_partPaths_iff.1 hbirds) (.ref _)) (eq_ok_of_mem_toOption hbird)
      (.target (.part (Resolver.mem_partPaths_iff.1 hanimals) (.ref _))
        (eq_ok_of_mem_toOption hanimal) (.own (.property hkey)))
  exact ⟨r, program, warnings, s, m, hr, hlowered, hpart, hclass, hm, hname, hgathers, hlost⟩

end Document

end ApiLowering
