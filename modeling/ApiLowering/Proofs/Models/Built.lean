import ApiLowering.Lowered
import ApiLowering.Proofs.Models.Drafting
import ApiLowering.Proofs.Models.Finishing
import ApiLowering.Proofs.Models.Folding
import ApiLowering.Proofs.Models.Linking

/-!
# The models of a program

The way of a component schema to a model of the program: it is drafted, linked to interfaces, lifted
from the interface that is its parent, folded with what its parent has become, and finished.

## Main definitions

* `Document.prepared` — the document that a program is made from.
* `Document.resolver` — the resolver that the models of a document are made with.
* `Resolver.Builds` — drafts, folded drafts and models that belong together.
* `Resolver.Way` — the way of one component schema.
* `Document.Stages` — the stages of the run that made a program.

## Main results

* `ModelTable.build_induction` — what the making of a table of models keeps.
* `Document.builds_of_lowered` — the models of a program are made in this way.
* `Resolver.Builds.exists_way`, `Resolver.Builds.exists_model` — models and components correspond.
* `Resolver.Builds.lift_cases` — what becomes of a draft whose parent is an interface.
-/

namespace ApiLowering

/-! ## The resolver of a run -/

/-- The document that a program is made from: the canonical form, with its schemas hoisted. -/
def Document.prepared (d : Document) (o : Options) : Document :=
  (d.canonical (.ofTable o.canonical.openapiNormalizer)).hoisted (.ofOptions o.canonical)

lemma Setup.eq_of_ofOptions {o : Options} {setup : Setup} (h : Setup.ofOptions o = .ok setup) :
    setup = ofCanonical o.canonical := by
  rw [ofOptions] at h
  cases hvalid : o.validate with
  | error f =>
    rw [hvalid] at h
    cases h
  | ok =>
    rw [hvalid] at h
    exact (Except.ok.inj h).symm

lemma Setup.prepare_eq {setup : Setup} {d prepared : Document} {s s' : Session}
    (h : setup.prepare d s = .ok (prepared, s')) : prepared =
      (d.canonical (.ofTable setup.options.openapiNormalizer)).hoisted (.ofOptions setup.options) := by
  rw [prepare] at h
  obtain ⟨canonical, _, hcanonical, h⟩ := Lowering.bind_eq_ok_iff.1 h
  obtain ⟨rfl, -⟩ := Lowering.pure_eq_ok_iff.1 h
  rw [canonicalDocument] at hcanonical
  obtain ⟨_, _, -, hcanonical⟩ := Lowering.bind_eq_ok_iff.1 hcanonical
  obtain ⟨_, _, -, hcanonical⟩ := Lowering.bind_eq_ok_iff.1 hcanonical
  rw [← (Lowering.pure_eq_ok_iff.1 hcanonical).1]

/-- The resolver that the models of a document are made with: it knows the components of the
document in its canonical form with its inline schemas hoisted, and which of them become models. -/
def Setup.modelResolver (setup : Setup) (d : Document) : Lowering Resolver := do
  let d ← setup.prepare d
  let models ← ModelTable.build setup d.parts
  return { setup, components := d.parts, models, binaryAsFile := false }

/-- The resolver that the models of a document are made with, for a set of options. -/
def Document.resolver (d : Document) (o : Options) : Except Fault Resolver := do
  let setup ← Setup.ofOptions o
  let (r, _) ← (setup.modelResolver d).run (.start setup)
  return r

namespace Resolver

/-- Drafts, the same folded, and the models that they become in the end. -/
structure Builds (r : Resolver) (ds folded : Drafts) (g : Property → Property)
    (models : List Model) : Prop where
  drafts : ∃ s s', r.drafts s = .ok (ds, s')
  inherited : Setup.Inherited r.setup (r.setup.linkInterfaces ds) folded
  finishing : ∀ p, Property.FinishedFrom p (g p)
  finished : List.Forall₂ (Model.FinishedFrom g) (folded.values.map (·.model)) models

/-- The drafts when they are linked to interfaces and interfaces have ceased to be parents. -/
def lifted (r : Resolver) (ds : Drafts) : Drafts := (r.setup.linkInterfaces ds).liftInterfaces

/-- The way of one component schema: its draft, the same with its interfaces and without an
interface as its parent, and the latter folded with what its parent has become. -/
structure Way (r : Resolver) (ds folded : Drafts) (key : String) (d alone last : Draft) : Prop where
  draft : ds.find? key = some d
  lift : (r.lifted ds).find? key = some alone
  liftedFrom : Drafts.LiftedFrom (r.setup.linkInterfaces ds) (r.lifted ds)
    (Setup.onModel (r.setup.linked (Setup.interfaceLinks ds)) d) alone
  fold : folded.find? key = some last
  eq_fold : last = r.setup.fold alone (folded.parent? alone)
  name : last.model.name = key

/-- What a model keeps of its draft on its way. -/
lemma Way.kept {r : Resolver} {ds folded : Drafts} {g : Property → Property} {key : String}
    {d alone last : Draft} {m : Model} (hway : Way r ds folded key d alone last)
    (hm : last.model.FinishedFrom g m) : m.classname = d.model.classname ∧
      m.isOneOfInterface = d.model.isOneOfInterface ∧ m.discriminator = d.model.discriminator := by
  have hlinked := r.setup.linkedFrom_linked (Setup.interfaceLinks ds) d.model
  obtain ⟨-, hclass, hflag, hdiscriminator, -⟩ := hway.liftedFrom.kept
  obtain ⟨_, _, _, rfl⟩ := hm
  rw [hway.eq_fold]
  exact ⟨hclass.trans hlinked.classname, hflag.trans hlinked.isOneOfInterface,
    hdiscriminator.trans hlinked.discriminator⟩

/-- So it keeps its alternatives. -/
lemma Way.oneOf_eq {r : Resolver} {ds folded : Drafts} {g : Property → Property} {key : String}
    {d alone last : Draft} {m : Model} (hway : Way r ds folded key d alone last)
    (hm : last.model.FinishedFrom g m) : m.oneOf = d.model.oneOf := by
  have hlinked := r.setup.linkedFrom_linked (Setup.interfaceLinks ds) d.model
  have hlifted := hway.liftedFrom.oneOf_eq
  obtain ⟨_, _, _, rfl⟩ := hm
  rw [hway.eq_fold]
  exact hlifted.trans hlinked.oneOf

/-- The properties of a model are those that it had before it was folded. -/
lemma Way.vars_eq {r : Resolver} {ds folded : Drafts} {g : Property → Property} {key : String}
    {d alone last : Draft} {m : Model} (hway : Way r ds folded key d alone last)
    (hm : last.model.FinishedFrom g m) : m.vars = alone.model.vars.map g := by
  obtain ⟨_, _, _, rfl⟩ := hm
  rw [hway.eq_fold]
  rfl

end Resolver

/-- A document is lowered by a run that starts with its setup. -/
lemma Document.exists_lower_of_lowered {d : Document} {o : Options} {program : Program}
    {warnings : List String} (h : d.lowered o = .ok (program, warnings)) :
    ∃ setup s, Setup.ofOptions o = .ok setup ∧ setup.lower d (.start setup) = .ok (program, s) := by
  rw [lowered] at h
  cases hsetup : Setup.ofOptions o with
  | error f =>
    rw [hsetup] at h
    cases h
  | ok setup =>
    cases hlower : setup.lower d (.start setup) with
    | error f =>
      simp only [hsetup, bind, Except.bind, StateT.run, hlower] at h
      cases h
    | ok outcome =>
      simp only [hsetup, bind, Except.bind, StateT.run, hlower] at h
      obtain ⟨rfl, -⟩ := Prod.mk.inj (Except.ok.inj h)
      exact ⟨setup, outcome.2, rfl, hlower⟩

/-- The stages of the run that made a program: each was given what the ones before it gave. -/
structure Document.Stages (d : Document) (o : Options) (r : Resolver) (program : Program) :
    Prop where
  resolver : d.resolver o = .ok r
  models : ∃ drafts s s' t t', r.lowerModels s = .ok (drafts, s') ∧
    r.setup.finishModels drafts t = .ok (program.models, t')
  endpoints : ∃ raw s s' t t',
    { r with binaryAsFile := true }.rawEndpoints (d.prepared o) s = .ok (raw, s') ∧
      r.setup.finishEndpoints program.models raw t = .ok (program.endpoints, t')
  groups : ∃ s s', r.setup.group program.endpoints s = .ok (program.groups, s')

/-- A program is made in stages. -/
lemma Document.exists_stages_of_lowered {d : Document} {o : Options} {program : Program}
    {warnings : List String} (h : d.lowered o = .ok (program, warnings)) :
    ∃ r, d.Stages o r program := by
  obtain ⟨setup, s, hsetup, hlower⟩ := exists_lower_of_lowered h
  rw [Setup.lower] at hlower
  obtain ⟨prepared, s₁, hprepared, hlower⟩ := Lowering.bind_eq_ok_iff.1 hlower
  obtain ⟨table, s₂, htable, hlower⟩ := Lowering.bind_eq_ok_iff.1 hlower
  obtain ⟨drafts, s₃, hdrafts, hlower⟩ := Lowering.bind_eq_ok_iff.1 hlower
  obtain ⟨raw, s₄, hraw, hlower⟩ := Lowering.bind_eq_ok_iff.1 hlower
  obtain ⟨finished, s₅, hfinished, hlower⟩ := Lowering.bind_eq_ok_iff.1 hlower
  obtain ⟨endpoints, s₆, hendpoints, hlower⟩ := Lowering.bind_eq_ok_iff.1 hlower
  obtain ⟨groups, s₇, hgroups, hlower⟩ := Lowering.bind_eq_ok_iff.1 hlower
  obtain ⟨session, s₈, -, hlower⟩ := Lowering.bind_eq_ok_iff.1 hlower
  obtain ⟨rfl, -⟩ := Lowering.pure_eq_ok_iff.1 hlower
  obtain rfl : prepared = d.prepared o := by
    rw [Setup.prepare_eq hprepared, Setup.eq_of_ofOptions hsetup]
    rfl
  let r : Resolver :=
    { setup, components := (d.prepared o).parts, models := table, binaryAsFile := false }
  have hresolver : setup.modelResolver d (.start setup) = .ok (r, s₂) :=
    Lowering.bind_eq_ok_iff.2 ⟨d.prepared o, s₁, hprepared,
      Lowering.bind_eq_ok_iff.2 ⟨table, s₂, htable, rfl⟩⟩
  refine ⟨r, ?_, ⟨drafts, _, _, _, _, hdrafts, hfinished⟩, ⟨raw, _, _, _, _, hraw, hendpoints⟩,
    ⟨_, _, hgroups⟩⟩
  simp only [resolver, hsetup, bind, Except.bind, StateT.run, hresolver]
  rfl

/-- The models of a program are made from the drafts of its components, and take their annotations
out of their extensions. -/
theorem Document.extensions_of_lowered {d : Document} {o : Options} {program : Program}
    {warnings : List String} (h : d.lowered o = .ok (program, warnings)) :
    ∃ r ds folded g, d.resolver o = .ok r ∧ Resolver.Builds r ds folded g program.models ∧
      List.Forall₂ (fun m m' => m.FinishedFrom g m' ∧ m'.vendorExtensions =
          (ExtraAnnotations.under ExtraAnnotations.classKey m.vendorExtensions).2)
        (folded.values.map (·.model)) program.models := by
  obtain ⟨r, hstages⟩ := exists_stages_of_lowered h
  obtain ⟨built, s, s', t, t', hbuilt, hfinished⟩ := hstages.models
  rw [Resolver.lowerModels] at hbuilt
  obtain ⟨ds, s₁, hdrafts, hbuilt⟩ := Lowering.bind_eq_ok_iff.1 hbuilt
  obtain ⟨folded, s₂, hfolded, hbuilt⟩ := Lowering.bind_eq_ok_iff.1 hbuilt
  obtain ⟨rfl, rfl⟩ := Lowering.pure_eq_ok_iff.1 hbuilt
  obtain ⟨g, hfinishing, hall⟩ := Setup.finishModels_spec hfinished
  have hnodup := (Resolver.drafts_spec hdrafts).1
  rw [← r.setup.keys_linkInterfaces] at hnodup
  exact ⟨r, ds, folded, g, hstages.resolver, ⟨⟨_, _, hdrafts⟩,
    Setup.foldInheritance_spec hnodup hfolded, hfinishing, hall.imp fun _ _ h => h.1⟩, hall⟩

/-- **The models of a program** are made from the drafts of its components. -/
theorem Document.builds_of_lowered {d : Document} {o : Options} {program : Program}
    {warnings : List String} (h : d.lowered o = .ok (program, warnings)) :
    ∃ r ds folded g, d.resolver o = .ok r ∧ Resolver.Builds r ds folded g program.models := by
  obtain ⟨r, ds, folded, g, hr, hbuilds, -⟩ := extensions_of_lowered h
  exact ⟨r, ds, folded, g, hr, hbuilds⟩

/-- **Induction along the making of a table of models.** A component is passed over if it refers to
another one, if it is mapped, and if it needs no model; otherwise it is entered with its class
name. -/
theorem ModelTable.build_induction {setup : Setup} {c : Components} {table : ModelTable}
    {s s' : Session} {P : List (String × SchemaRef) → ModelTable → Session → Prop}
    (h : build setup c s = .ok (table, s')) (hstart : P [] {} s)
    (hpass : ∀ done key ref table t, P done table t →
      (∀ schema, ref = .inline schema → schema.needsModel = true →
        setup.options.schemaMapping.contains key = true) → P (done ++ [(key, ref)]) table t)
    (henter : ∀ done key schema table t classname t', P done table t →
      schema.needsModel = true → setup.options.schemaMapping.contains key = false →
      setup.className key t = .ok (classname, t') → P (done ++ [(key, .inline schema)])
        (table.insert key { classname, isEnum := schema.isEnum }) t') :
    P c.schemas.entries table s' := by
  rw [build] at h
  refine Lowering.foldlM_history h hstart ?_
  rintro done ⟨key, ref⟩ - table t table' t' hdone hstep
  cases ref with
  | ref path =>
    obtain ⟨rfl, rfl⟩ := Lowering.pure_eq_ok_iff.1 hstep
    exact hpass done key _ table t hdone fun schema hinline => nomatch hinline
  | inline schema =>
    simp only at hstep
    split at hstep
    · rename_i hpassed
      obtain ⟨rfl, rfl⟩ := Lowering.pure_eq_ok_iff.1 hstep
      refine hpass done key _ table t hdone fun schema' hinline hneeds => ?_
      obtain rfl := Referable.inline.inj hinline
      simpa [hneeds] using hpassed
    · rename_i hentered
      obtain ⟨classname, t₁, hclass, hstep⟩ := Lowering.bind_eq_ok_iff.1 hstep
      obtain ⟨rfl, rfl⟩ := Lowering.pure_eq_ok_iff.1 hstep
      simp only [Bool.or_eq_true, not_or, Bool.not_eq_true, Bool.not_eq_false'] at hentered
      exact henter done key schema table t classname _ hdone hentered.2 hentered.1 hclass

/-- The resolver of a document knows the components of the prepared document, and a table that is
made for them right after the document was prepared. -/
lemma Document.exists_build_of_resolver {d : Document} {o : Options} {r : Resolver}
    (h : d.resolver o = .ok r) : r.setup = .ofCanonical o.canonical ∧
      r.components = (d.prepared o).parts ∧ r.binaryAsFile = false ∧
      ∃ s s', r.setup.prepare d (.start r.setup) = .ok (d.prepared o, s) ∧
        ModelTable.build r.setup r.components s = .ok (r.models, s') := by
  rw [resolver] at h
  cases hsetup : Setup.ofOptions o with
  | error f =>
    rw [hsetup] at h
    cases h
  | ok setup =>
    cases hrun : setup.modelResolver d (.start setup) with
    | error f =>
      simp only [hsetup, bind, Except.bind, StateT.run, hrun] at h
      cases h
    | ok outcome =>
      simp only [hsetup, bind, Except.bind, StateT.run, hrun] at h
      obtain rfl := Except.ok.inj h
      rw [Setup.modelResolver] at hrun
      obtain ⟨prepared, s, hprepared, hrun⟩ := Lowering.bind_eq_ok_iff.1 hrun
      obtain ⟨table, s', htable, hrun⟩ := Lowering.bind_eq_ok_iff.1 hrun
      obtain ⟨hr, -⟩ := Lowering.pure_eq_ok_iff.1 hrun
      have hcanonical := Setup.eq_of_ofOptions hsetup
      have hdocument : prepared = d.prepared o := by
        rw [Setup.prepare_eq hprepared, hcanonical]
        rfl
      rw [hdocument] at hprepared htable hr
      rw [← hr]
      exact ⟨hcanonical, rfl, rfl, s, s', hprepared, htable⟩

/-- What a resolver is found to know of a document. -/
lemma Document.exists_resolver {d : Document} {o : Options} {P : Resolver → Prop} [DecidablePred P]
    (h : ((d.resolver o).toOption.any fun r => decide (P r)) = true) :
    ∃ r, d.resolver o = .ok r ∧ P r := by
  cases hr : d.resolver o with
  | error f =>
    rw [hr] at h
    cases h
  | ok r =>
    rw [hr] at h
    exact ⟨r, rfl, of_decide_eq_true h⟩

namespace Resolver.Builds

variable {r : Resolver} {ds folded : Drafts} {g : Property → Property} {models : List Model}
  {key : String}

lemma nodup_keys (h : Builds r ds folded g models) : ds.keys.Nodup := by
  obtain ⟨s, s', hdrafts⟩ := h.drafts
  exact (drafts_spec hdrafts).1

lemma keys_folded (h : Builds r ds folded g models) : folded.keys = ds.keys := by
  rw [h.inherited.keys, Setup.keys_linkInterfaces]

/-- Finishing keeps the names of properties. -/
lemma names_map (h : Builds r ds folded g models) (ps : List Property) :
    (ps.map g).map (·.name) = ps.map (·.name) := by
  rw [List.map_map]
  exact List.map_congr_left fun p _ => (h.finishing p).name

/-- Every draft is that of the schema of its component. -/
lemma exists_draftOf (h : Builds r ds folded g models) (hd : ds.find? key = some d) :
    ∃ s classname, r.SchemaAt key s ∧ DraftOf r key classname s d := by
  obtain ⟨t, t', hdrafts⟩ := h.drafts
  obtain ⟨e, -, -, schema, hschema, hdraft⟩ := (drafts_spec hdrafts).2.2 key d hd
  exact ⟨schema, _, hschema, hdraft⟩

lemma draftOf (h : Builds r ds folded g models) (hd : ds.find? key = some d)
    (hs : r.SchemaAt key s) : ∃ classname, DraftOf r key classname s d := by
  obtain ⟨t, classname, ht, hof⟩ := h.exists_draftOf hd
  obtain rfl := hs.unique ht
  exact ⟨classname, hof⟩

/-- Every component that has a draft goes its way. -/
lemma exists_way (h : Builds r ds folded g models) (hkey : key ∈ ds.keys) :
    ∃ d alone last, Way r ds folded key d alone last := by
  have hnodup : (r.setup.linkInterfaces ds).keys.Nodup := by
    rw [Setup.keys_linkInterfaces]
    exact h.nodup_keys
  obtain ⟨d, hd⟩ := Option.isSome_iff_exists.1 (Table.contains_iff.2 hkey)
  have hlinked := r.setup.find?_linkInterfaces ds key
  rw [hd, Option.map_some] at hlinked
  obtain ⟨alone, halone, hlift⟩ := (Drafts.liftInterfaces_spec hnodup).2 key _ hlinked
  refine ⟨d, alone, _, hd, halone, hlift, h.inherited.fold key alone halone, rfl, ?_⟩
  obtain ⟨s, s', hdrafts⟩ := h.drafts
  obtain ⟨e, -, -, schema, -, hdraft⟩ := (drafts_spec hdrafts).2.2 key d hd
  rw [Setup.name_fold, hlift.kept.1, Setup.onModel]
  exact (r.setup.linkedFrom_linked _ d.model).name.trans hdraft.name_eq

/-- Everything that has been folded has come on its way. -/
lemma exists_way_of_find? (h : Builds r ds folded g models) {last : Draft}
    (hlast : folded.find? key = some last) : ∃ d alone, Way r ds folded key d alone last := by
  obtain ⟨d, alone, last', hway⟩ := h.exists_way (h.keys_folded ▸ Table.mem_keys_of_find? hlast)
  obtain rfl := Option.some.inj (hway.fold.symm.trans hlast)
  exact ⟨d, alone, hway⟩

/-- What has been folded becomes a model. -/
lemma exists_model (h : Builds r ds folded g models) {last : Draft}
    (hlast : folded.find? key = some last) : ∃ m ∈ models, last.model.FinishedFrom g m :=
  exists_mem_left_of_forall₂ h.finished (List.mem_map_of_mem (Table.mem_values_of_find? hlast))

/-- Every model that has been folded has come on the way of a component. -/
lemma exists_way_of_mem_folded (h : Builds r ds folded g models) {m : Model}
    (hm : m ∈ folded.values.map (·.model)) :
    ∃ key d alone last, Way r ds folded key d alone last ∧ last.model = m := by
  obtain ⟨last, hlast, rfl⟩ := List.mem_map.1 hm
  obtain ⟨⟨key, _⟩, hentry, rfl⟩ := List.mem_map.1 hlast
  have hnodup : folded.keys.Nodup := h.keys_folded ▸ h.nodup_keys
  obtain ⟨d, alone, hway⟩ := h.exists_way_of_find? (Table.find?_eq_some_of_mem hnodup hentry)
  exact ⟨key, d, alone, _, hway, rfl⟩

/-- Every model has come on the way of a component. -/
lemma exists_way_of_mem (h : Builds r ds folded g models) {m : Model} (hm : m ∈ models) :
    ∃ key d alone last, Way r ds folded key d alone last ∧ last.model.FinishedFrom g m := by
  obtain ⟨_, hmem, hfinished⟩ := exists_mem_right_of_forall₂ h.finished hm
  obtain ⟨key, d, alone, last, hway, rfl⟩ := h.exists_way_of_mem_folded hmem
  exact ⟨key, d, alone, last, hway, hfinished⟩

/-- The models go by the keys of the components, in order. -/
lemma names_eq (h : Builds r ds folded g models) : models.map (·.name) = ds.keys := by
  have hentry : ∀ e ∈ folded.entries, e.2.model.name = e.1 := fun e he => by
    have hnodup : folded.keys.Nodup := h.keys_folded ▸ h.nodup_keys
    obtain ⟨d, alone, hway⟩ := h.exists_way_of_find? (Table.find?_eq_some_of_mem hnodup he)
    exact hway.name
  have hall : List.Forall₂ (fun e m => e.2.model.FinishedFrom g m) folded.entries models := by
    have hfinished := h.finished
    rw [Table.values, List.map_map, List.forall₂_map_left_iff] at hfinished
    exact hfinished
  have hnames : List.Forall₂ Eq (models.map (·.name)) folded.keys := by
    rw [Table.keys, List.forall₂_map_left_iff, List.forall₂_map_right_iff]
    have hboth := (List.forall₂_and_left _ _).2 ⟨hentry, hall⟩
    exact (hboth.imp fun e m h => h.2.name.trans h.1).flip
  rw [List.forall₂_eq_eq_eq] at hnames
  rw [hnames, h.keys_folded]

/-- The names of models tell them apart. -/
lemma eq_of_name_eq (h : Builds r ds folded g models) {m p : Model} (hm : m ∈ models)
    (hp : p ∈ models) (hname : m.name = p.name) : m = p :=
  List.inj_on_of_nodup_map (h.names_eq ▸ h.nodup_keys) hm hp hname

/-- A draft has no interface as its parent, or it is lifted from the one that its schema extends:
this has become a model, and its properties are copied as they were before they were finished. -/
theorem lift_cases (h : Builds r ds folded g models) (hway : Way r ds folded key d alone last) :
    (alone.model = r.setup.linked (Setup.interfaceLinks ds) d.model ∧
      ∀ i ∈ models, i.isOneOfInterface = true → d.parentKey ≠ some i.name) ∨
    ∃ i ∈ models, i.isOneOfInterface = true ∧ d.parentKey = some i.name ∧ ∃ added,
      alone.model = { r.setup.linked (Setup.interfaceLinks ds) d.model with
          vars := (r.setup.linked (Setup.interfaceLinks ds) d.model).vars ++ added :
        Model }.withInterface i.classname ∧
      ∀ v ∈ added, ∃ w, g w ∈ i.vars ∧ v = w.fromInterface i.discriminator := by
  -- a model that is an interface was one when it was linked
  have hlinked {i : Model} {d' alone' last' : Draft} {parent : String}
      (hway' : Way r ds folded parent d' alone' last') (hi : last'.model.FinishedFrom g i) :
      (r.setup.linked (Setup.interfaceLinks ds) d'.model).isOneOfInterface =
        i.isOneOfInterface :=
    (r.setup.linkedFrom_linked _ d'.model).isOneOfInterface.trans (hway'.kept hi).2.1.symm
  have hfind {parent : String} : (r.setup.linkInterfaces ds).find? parent =
      (ds.find? parent).map (Setup.onModel (r.setup.linked (Setup.interfaceLinks ds))) :=
    r.setup.find?_linkInterfaces ds parent
  have hfrom := hway.liftedFrom
  cases hfrom with
  | stay hnone =>
    refine .inl ⟨rfl, fun i hi hinterface hparent => ?_⟩
    obtain ⟨parent, d', alone', last', hway', hfinished⟩ := h.exists_way_of_mem hi
    obtain rfl : i.name = parent := hfinished.name.trans hway'.name
    refine hnone (Setup.onModel (r.setup.linked (Setup.interfaceLinks ds)) d') ⟨?_, ?_⟩
    · rw [Drafts.parent?, Setup.onModel, hparent, Option.bind_some, hfind, hway'.draft]
      rfl
    · exact (hlinked hway' hfinished).trans hinterface
  | @lift parent p now interface hparent hhas hnow hclass hdiscriminator hbefore hvars =>
    obtain ⟨hp, hflag⟩ := hhas
    rw [Drafts.parent?, hparent, Option.bind_some, hfind] at hp
    obtain ⟨d', hd', rfl⟩ := Option.map_eq_some_iff.1 hp
    obtain ⟨d'', alone', last', hway'⟩ := h.exists_way (Table.mem_keys_of_find? hd')
    obtain rfl := Option.some.inj (hd'.symm.trans hway'.draft)
    obtain rfl := Option.some.inj (hnow.symm.trans hway'.lift)
    obtain ⟨i, hi, hfinished⟩ := h.exists_model hway'.fold
    obtain ⟨hclass', -, hdiscriminator'⟩ := hway'.kept hfinished
    have hkept := r.setup.linkedFrom_linked (Setup.interfaceLinks ds) d'.model
    have hiclass : interface.classname = i.classname :=
      hclass.trans (hkept.classname.trans hclass'.symm)
    have hidiscriminator : interface.discriminator = i.discriminator :=
      hdiscriminator.trans (hkept.discriminator.trans hdiscriminator'.symm)
    obtain ⟨added, hadded, hsub⟩ := exists_addNewBy_eq_append Property.isNamesake
      (r.setup.linked (Setup.interfaceLinks ds) d.model).vars
      (interface.vars.map (·.fromInterface interface.discriminator))
    refine .inr ⟨i, hi, (hlinked hway' hfinished).symm.trans hflag,
      (hfinished.name.trans hway'.name).symm ▸ hparent, added, ?_, fun v hv => ?_⟩
    · rw [← hadded, ← hiclass]
      rfl
    · obtain ⟨w, hw, rfl⟩ := List.mem_map.1 (hsub hv)
      refine ⟨w, ?_, by rw [hidiscriminator]⟩
      obtain ⟨_, _, _, rfl⟩ := hfinished
      rw [hway'.eq_fold]
      exact List.mem_map_of_mem (hvars.subset hw)

end Resolver.Builds

end ApiLowering
