import ApiLowering.Proofs.Models.Inheritance
import ApiLowering.Proofs.Models.Gathering
import ApiLowering.Proofs.Types.Resolution

/-!
# Imports of models

A model imports what the data types of the properties that it declares are spelled from. What it
has from others comes without imports: the properties that are copied from an interface, and the
arguments of its constructor that it inherits. The imports for these are those of the models that
they come from.

## Main definitions

* `Resolver.CoveredBy` — the names that the type of a property is spelled from are known somewhere.
* `Model.Knows` — the names that a model need not import, or does.
* `Resolver.ExtendsInterface` — the schema of a component has an interface as its parent.

## Main results

* `Resolver.covered_drafts` — drafts import what their properties need.
* `Resolver.Builds.exists_copies` — copied properties need the imports of interfaces.
* `Resolver.Builds.exists_mem_vars_of_mem_requiredArgs` — arguments are properties of ancestors.
* `Document.imports_of_lowered` — the imports of the models of all programs.
* `Document.copied_type_is_not_imported` — a type that a model has from others and does not import.
-/

namespace ApiLowering

open Relation Schema

/-! ## Names that are known -/

/-- A model knows the names that it imports, its own, and those that are never imported. -/
def Model.Knows (m : Model) (name : String) : Prop :=
  name ∈ m.imports ∨ name = m.classname ∨ name ∈ Resolver.neverImported

/-- A parent is one more import. -/
lemma Setup.mem_imports_fold (setup : Setup) {d : Draft} {parent : Option Draft} {name : String}
    (h : name ∈ d.model.imports) : name ∈ (setup.fold d parent).model.imports := by
  cases parent with
  | none => exact h
  | some p => exact NameSet.mem_insert.2 (.inr h)

namespace Resolver

variable {r : Resolver} {l : Language} {s s' : Session} {p p' : Property}
  {known known' : String → Prop} {key classname : String} {schema : Schema}

/-- The names that the data type of a property is spelled from, as far as they have to be imported,
are known. The type is that of the schema of the property. -/
def CoveredBy (r : Resolver) (p : Property) (known : String → Prop) : Prop :=
  ∃ ref s t s' names, r.propertyType p.name ref s = .ok (t, s') ∧ p.type = t.facts ∧
    r.setup.Spells t names ∧ ∀ name ∈ names, known name

lemma CoveredBy.mono (h : r.CoveredBy p known) (hknown : ∀ name, known name → known' name) :
    r.CoveredBy p known' := by
  obtain ⟨ref, s, t, s', names, ht, hp, hspells, hnames⟩ := h
  exact ⟨ref, s, t, s', names, ht, hp, hspells, fun name hname => hknown name (hnames name hname)⟩

/-- Another property of the same name and type is covered by the same names. -/
lemma CoveredBy.of_eq (h : r.CoveredBy p known) (hname : p'.name = p.name)
    (htype : p'.type = p.type) : r.CoveredBy p' known := by
  rw [CoveredBy, hname, htype]
  exact h

/-! ## Drafts -/

/-- A property is covered by what it imports. -/
lemma covered_property (hdialect : r.setup.dialect = l.dialect) {name : String} {ref : SchemaRef}
    {required : Bool} {site : DefaultSite} {imports : NameSet}
    (h : r.property name ref required site s = .ok ((p, imports), s')) :
    r.CoveredBy p (· ∈ imports) := by
  obtain ⟨own, t, _, _, target, described, _, _, _, _, _, -, ht, -, hdescribed, -, -, -, rfl,
    rfl⟩ := property_eq_ok_iff.1 h
  obtain ⟨names, hspells, hnames⟩ := covers_propertyType hdialect ht
  have houtline := outline_describedProperty hdescribed
  have hname : described.name = own := congrArg Property.name houtline
  have htype : described.type = t.facts := congrArg Property.type houtline
  exact ⟨ref, _, t, _, names, hname ▸ ht, htype, hspells, hnames⟩

/-- The properties of a shape are covered by what all of them import. -/
lemma covered_properties (hdialect : r.setup.dialect = l.dialect) {shape : Shape}
    {ps : List Property} {imports : NameSet}
    (h : r.properties shape s = .ok ((ps, imports), s')) :
    ∀ p ∈ ps, r.CoveredBy p (· ∈ imports) := by
  intro p hp
  obtain ⟨_, _, _, more, _, _, hmade, himports⟩ := exists_property_of_mem h hp
  exact (covered_property hdialect hmade).mono himports

/-- A draft knows the names that its properties need. An enumeration has none. -/
lemma covered_draft (hdialect : r.setup.dialect = l.dialect) {d : Draft}
    (h : r.draft key classname schema s = .ok (d, s')) :
    ∀ p ∈ d.model.vars, r.CoveredBy p d.model.Knows := by
  intro p hp
  cases drafted_of_draft h with
  | enum => exact (List.not_mem_nil hp).elim
  | @«class» _ oneOf anyOf vars imports discriminator _ _ _ _ hvars =>
    obtain ⟨_, _, hvars⟩ := hvars
    obtain ⟨w, hw, rfl⟩ := List.mem_map.1 hp
    have hcovered : r.CoveredBy w
        (r.classWith key classname schema oneOf anyOf vars imports discriminator).Knows := by
      refine (covered_properties hdialect hvars w hw).mono fun name hname => ?_
      simp only [Model.Knows, classWith, neverImported, List.foldl_cons, List.foldl_nil,
        NameSet.mem_erase, List.mem_cons, List.not_mem_nil, or_false, hname, true_and]
      tauto
    obtain heq | heq := w.markedBy_eq discriminator
    · rwa [heq]
    · rw [heq]
      exact hcovered.of_eq rfl rfl

/-- **Drafts know the names that their properties need.** -/
theorem covered_drafts (hdialect : r.setup.dialect = l.dialect) {ds : Drafts}
    (h : r.drafts s = .ok (ds, s')) :
    ∀ key d, ds.find? key = some d → ∀ p ∈ d.model.vars, r.CoveredBy p d.model.Knows := by
  intro key d hd
  obtain ⟨e, -, -, schema, -, t, t', hdraft⟩ := (exists_draft_of_drafts h).2.2 key d hd
  exact covered_draft hdialect hdraft

/-! ## Interfaces -/

/-- The schema of a component has an interface as its parent. -/
def ExtendsInterface (r : Resolver) (key parent : String) : Prop :=
  ∃ s t, r.SchemaAt key s ∧ r.HasParent s parent t ∧ r.isInterface t = true

/-- A draft with what it has copied from interfaces: the names that the copies need are known to the
interfaces that declare them. -/
structure LiftedAt (r : Resolver) (linked : Drafts) (key : String) (d : Draft) : Prop where
  parent : ∀ parent, d.parentKey = some parent → ∃ s t, r.SchemaAt key s ∧ r.HasParent s parent t
  interface : d.model.isOneOfInterface = true → ∀ s, r.SchemaAt key s → r.isInterface s = true
  vars : ∃ before copies, linked.find? key = some before ∧
    d.model.vars = before.model.vars ++ copies ∧ ∀ p ∈ copies, ∃ last i,
      TransGen r.ExtendsInterface key last ∧ linked.find? last = some i ∧
      r.CoveredBy p i.model.Knows

/-- One more interface. -/
lemma LiftedAt.liftInterface {linked : Drafts} {parent : String} {d i : Draft}
    (hcovered : ∀ key d, linked.find? key = some d → ∀ p ∈ d.model.vars,
      r.CoveredBy p d.model.Knows)
    (hd : LiftedAt r linked key d) (hi : LiftedAt r linked parent i)
    (hparent : d.parentKey = some parent) (hinterface : i.model.isOneOfInterface = true) :
    LiftedAt r linked key (d.liftInterface i.model) := by
  obtain ⟨s, t, hs, ht⟩ := hd.parent parent hparent
  have hextends : r.ExtendsInterface key parent :=
    ⟨s, t, hs, ht, hi.interface hinterface t ht.schemaAt⟩
  obtain ⟨before, copies, hbefore, hvars, hcopies⟩ := hd.vars
  obtain ⟨before', copies', hbefore', hvars', hcopies'⟩ := hi.vars
  obtain ⟨added, hadded, hsub⟩ := exists_addNewBy_eq_append Property.isNamesake d.model.vars
    (i.model.vars.map (·.fromInterface i.model.discriminator))
  refine ⟨fun _ hnone => ?_, ?_, before, copies ++ added, hbefore, ?_, fun p hp => ?_⟩
  · cases hnone
  · rw [Draft.liftInterface, Model.isOneOfInterface_withInterface]
    exact hd.interface
  · rw [Draft.liftInterface, Model.vars_withInterface, ← List.append_assoc, ← hvars]
    exact hadded
  · rcases List.mem_append.1 hp with hp | hp
    · exact hcopies p hp
    · obtain ⟨w, hw, rfl⟩ := List.mem_map.1 (hsub hp)
      -- the interface declares it, or has it from an interface itself
      rw [hvars', List.mem_append] at hw
      rcases hw with hw | hw
      · exact ⟨parent, before', .single hextends, hbefore', (hcovered _ _ hbefore' w hw).of_eq
          (w.name_fromInterface _) (w.type_fromInterface _)⟩
      · obtain ⟨last, j, hline, hj, hw⟩ := hcopies' w hw
        exact ⟨last, j, .head hextends hline, hj,
          hw.of_eq (w.name_fromInterface _) (w.type_fromInterface _)⟩

namespace Builds

variable {ds folded : Drafts} {g : Property → Property} {models : List Model}
  {d alone last before : Draft} {m : Model}

/-- Linked drafts know the names that their properties need. -/
lemma covered_linked (h : Builds r ds folded g models) (hdialect : r.setup.dialect = l.dialect) :
    ∀ key d, (r.setup.linkInterfaces ds).find? key = some d →
      ∀ p ∈ d.model.vars, r.CoveredBy p d.model.Knows := by
  intro key d hd p hp
  rw [Setup.find?_linkInterfaces] at hd
  obtain ⟨draft, hdraft, rfl⟩ := Option.map_eq_some_iff.1 hd
  obtain ⟨s, s', hdrafts⟩ := h.drafts
  have hlinked := r.setup.linkedFrom_linked (Setup.interfaceLinks ds) draft.model
  obtain ⟨f, hf, hvars⟩ := hlinked.vars
  rw [Setup.onModel, hvars] at hp
  obtain ⟨w, hw, rfl⟩ := List.mem_map.1 hp
  refine ((covered_drafts hdialect hdrafts key draft hdraft w hw).of_eq (hf w).name
    (hf w).type).mono fun name hname => ?_
  rw [Model.Knows, Setup.onModel, hlinked.imports, hlinked.classname]
  exact hname

/-- Every draft is what it was, with copies of the properties of interfaces. -/
lemma liftedAt (h : Builds r ds folded g models) (hdialect : r.setup.dialect = l.dialect) :
    ∀ key alone, (r.lifted ds).find? key = some alone →
      LiftedAt r (r.setup.linkInterfaces ds) key alone := by
  refine Drafts.liftInterfaces_induction (fun key d hd => ?_)
    fun key d parent i hd hi hparent hinterface =>
      hd.liftInterface (h.covered_linked hdialect) hi hparent hinterface
  have hlinked := hd
  rw [Setup.find?_linkInterfaces] at hlinked
  obtain ⟨draft, hdraft, rfl⟩ := Option.map_eq_some_iff.1 hlinked
  obtain ⟨s, classname, hs, hof⟩ := h.exists_draftOf hdraft
  refine ⟨fun parent hparent => ?_, fun hinterface t ht => ?_, _, [], hd,
    (List.append_nil _).symm, fun _ hp => (List.not_mem_nil hp).elim⟩
  · obtain ⟨t, ht⟩ := hof.hasParent hparent
    exact ⟨s, t, hs, ht⟩
  · obtain rfl := hs.unique ht
    rw [Setup.onModel, (r.setup.linkedFrom_linked _ draft.model).isOneOfInterface] at hinterface
    cases hof with
    | enum _ _ _ _ hflag =>
      rw [hflag] at hinterface
      cases hinterface
    | «class» _ _ _ hclass => exact hclass.isOneOfInterface.symm.trans hinterface

/-- Names that a linked draft knows are known to its model. -/
lemma knows_of_way (hway : Way r ds folded key d alone last) (hm : last.model.FinishedFrom g m)
    (hbefore : (r.setup.linkInterfaces ds).find? key = some before) {name : String}
    (hname : before.model.Knows name) : m.Knows name := by
  rw [Setup.find?_linkInterfaces, hway.draft, Option.map_some, Option.some.injEq] at hbefore
  subst hbefore
  have himports := hway.liftedFrom.imports_eq
  have hclass := hway.liftedFrom.kept.2.1
  obtain ⟨_, _, _, rfl⟩ := hm
  rw [Model.Knows, ← himports, ← hclass] at hname
  rw [hway.eq_fold]
  exact hname.imp_left r.setup.mem_imports_fold

/-- A model knows the names that the properties of its draft need. Its other properties are copies,
and an interface knows the names that these need. -/
theorem exists_copies (h : Builds r ds folded g models) (hdialect : r.setup.dialect = l.dialect)
    (hway : Way r ds folded key d alone last) (hm : last.model.FinishedFrom g m) :
    ∃ declared copies, m.vars = declared ++ copies ∧
      declared.map (·.baseName) = d.model.vars.map (·.baseName) ∧
      (∀ p ∈ declared, r.CoveredBy p m.Knows) ∧
      ∀ p ∈ copies, ∃ a ∈ models, TransGen r.ExtendsInterface key a.name ∧
        r.CoveredBy p a.Knows := by
  obtain ⟨before, copies, hbefore, hvars, hcopies⟩ :=
    (h.liftedAt hdialect key alone hway.lift).vars
  have hfinish {p : Property} {known : String → Prop} (hp : r.CoveredBy p known) :
      r.CoveredBy (g p) known :=
    hp.of_eq (h.finishing p).name (h.finishing p).type
  refine ⟨before.model.vars.map g, copies.map g, ?_, ?_, fun p hp => ?_, fun p hp => ?_⟩
  · rw [hway.vars_eq hm, hvars, List.map_append]
  · rw [Setup.find?_linkInterfaces, hway.draft, Option.map_some, Option.some.injEq] at hbefore
    obtain ⟨f, hf, hlinked⟩ := (r.setup.linkedFrom_linked (Setup.interfaceLinks ds) d.model).vars
    rw [← hbefore, Setup.onModel, hlinked, List.map_map, List.map_map]
    exact List.map_congr_left fun p _ => ((h.finishing (f p)).baseName).trans (hf p).baseName
  · obtain ⟨w, hw, rfl⟩ := List.mem_map.1 hp
    exact hfinish ((h.covered_linked hdialect key before hbefore w hw).mono fun name hname =>
      knows_of_way hway hm hbefore hname)
  · obtain ⟨w, hw, rfl⟩ := List.mem_map.1 hp
    obtain ⟨parent, i, hline, hi, hcovered⟩ := hcopies w hw
    have hparent : parent ∈ ds.keys := by
      rw [← r.setup.keys_linkInterfaces]
      exact Table.mem_keys_of_find? hi
    obtain ⟨d', alone', last', hway'⟩ := h.exists_way hparent
    obtain ⟨a, ha, hfinished⟩ := h.exists_model hway'.fold
    have hname : a.name = parent := hfinished.name.trans hway'.name
    exact ⟨a, ha, hname ▸ hline, hfinish (hcovered.mono fun name hname =>
      knows_of_way hway' hfinished hi hname)⟩

/-- What the constructor of a folded draft takes, or hands to children, is a property of its model
or of an ancestor. -/
lemma exists_mem_vars_of_taken (h : Builds r ds folded g models)
    (hlast : folded.find? key = some last) : ∀ m, last.model.FinishedFrom g m →
      ∀ p, p ∈ last.model.requiredArgs ∨ p ∈ last.inheritedArgs →
        ∃ a, ReflTransGen (Model.Extends models) m a ∧ g p ∈ a.vars := by
  refine h.parent_induction (fun last => ∀ m, last.model.FinishedFrom g m →
    ∀ p, p ∈ last.model.requiredArgs ∨ p ∈ last.inheritedArgs →
      ∃ a, ReflTransGen (Model.Extends models) m a ∧ g p ∈ a.vars)
    (fun {key d alone last} hway ih m hm p hp => ?_) hlast
  rw [hway.eq_fold] at hp
  have htaken : p ∈ alone.model.vars ∨
      p ∈ ((folded.parent? alone).map Draft.inheritedArgs).getD [] := by
    have hown {p : Property} {inherited : List Property}
        (hp : p ∈ (Setup.ownRequired alone inherited).filter
          (·.facets.inRequiredArgsConstructor)) : p ∈ alone.model.vars :=
      List.mem_of_mem_filter (List.mem_of_mem_filter hp)
    rcases hp with hp | hp
    · exact (mem_addNewBy hp).imp_left hown
    · exact (mem_addNewBy hp).symm.imp_left hown
  rcases htaken with hown | hinherited
  · refine ⟨m, .refl, ?_⟩
    rw [hway.vars_eq hm]
    exact List.mem_map_of_mem hown
  · cases hfound : folded.parent? alone with
    | none =>
      rw [hfound] at hinherited
      cases hinherited
    | some parent =>
      rw [hfound] at hinherited
      obtain ⟨q, hinherits, -, hq⟩ := h.exists_inheritsFrom hway hm hfound
      obtain ⟨a, hline, ha⟩ := ih parent hfound q hq p (.inr hinherited)
      exact ⟨a, .head hinherits.extends_ hline, ha⟩

/-- The arguments of a constructor are properties of the model or of its ancestors. -/
theorem exists_mem_vars_of_mem_requiredArgs (h : Builds r ds folded g models) (hm : m ∈ models)
    (hp : p ∈ m.requiredArgs) : ∃ a, ReflTransGen (Model.Extends models) m a ∧ p ∈ a.vars := by
  obtain ⟨key, d, alone, last, hway, hfinished⟩ := h.exists_way_of_mem hm
  have hargs : m.requiredArgs = last.model.requiredArgs.map g := by
    obtain ⟨_, _, _, rfl⟩ := hfinished
    rfl
  rw [hargs] at hp
  obtain ⟨w, hw, rfl⟩ := List.mem_map.1 hp
  exact h.exists_mem_vars_of_taken hway.fold m hfinished w (.inl hw)

end Builds

end Resolver

/-! ## Programs -/

namespace Document

/-- **Imports.** A model knows the names that its properties need, as far as its schema declares
them. Its other properties are copied from interfaces: one that the schema extends, directly or
through other interfaces, knows the names that they need. The arguments of a constructor are
properties of the model or of its ancestors. -/
theorem imports_of_lowered {d : Document} {o : Options} {program : Program}
    {warnings : List String} (h : d.lowered o = .ok (program, warnings)) :
    ∃ r, d.resolver o = .ok r ∧ ∀ m ∈ program.models,
      (∃ declared copies, m.vars = declared ++ copies ∧
        (∀ s, r.SchemaAt m.name s → s.isEnum = false → ∀ name,
          name ∈ declared.map (·.baseName) ↔ r.Declares s name) ∧
        (∀ p ∈ declared, r.CoveredBy p m.Knows) ∧
        ∀ p ∈ copies, ∃ a ∈ program.models, TransGen r.ExtendsInterface m.name a.name ∧
          r.CoveredBy p a.Knows) ∧
      ∀ p ∈ m.requiredArgs, ∃ a ∈ program.models,
        ReflTransGen (Model.Extends program.models) m a ∧ p ∈ a.vars := by
  obtain ⟨r, ds, folded, g, hr, hbuilds⟩ := builds_of_lowered h
  refine ⟨r, hr, fun m hm => ⟨?_, fun p hp => ?_⟩⟩
  · have hdialect : r.setup.dialect = o.canonical.language.dialect := by
      rw [(exists_build_of_resolver hr).1]
      rfl
    obtain ⟨key, draft, alone, last, hway, hfinished⟩ := hbuilds.exists_way_of_mem hm
    obtain ⟨declared, copies, hvars, hnames, hdeclared, hcopies⟩ :=
      hbuilds.exists_copies hdialect hway hfinished
    have hkey : m.name = key := hfinished.name.trans hway.name
    refine ⟨declared, copies, hvars, fun s hs hclass name => ?_, hdeclared, hkey ▸ hcopies⟩
    obtain ⟨classname, hof⟩ := hbuilds.draftOf hway.draft (hkey ▸ hs)
    rw [hnames]
    exact hof.declares_iff hclass
  · obtain ⟨a, hline, ha⟩ := hbuilds.exists_mem_vars_of_mem_requiredArgs hm hp
    refine ⟨a, ?_, hline, ha⟩
    rcases ReflTransGen.cases_tail hline with rfl | ⟨_, -, hextends⟩
    · exact hm
    · exact hextends.1

/-- Cats have a name themselves, and tags from pets. -/
theorem imports_of_lowered_taggedPets : ∃ program warnings r,
    taggedPets.lowered {} = .ok (program, warnings) ∧ taggedPets.resolver {} = .ok r ∧
    (program.models.map fun m => (m.name, m.vars.map (·.name), m.imports.names)) =
      [("Cat", ["name", "tags"], []), ("Kitten", ["age"], ["Cat"]), ("Pet", ["tags"], ["List"])] ∧
    ∀ m ∈ program.models, ∃ declared copies, m.vars = declared ++ copies ∧
      (∀ p ∈ declared, r.CoveredBy p m.Knows) ∧
      ∀ p ∈ copies, ∃ a ∈ program.models, TransGen r.ExtendsInterface m.name a.name ∧
        r.CoveredBy p a.Knows := by
  obtain ⟨program, warnings, h, hmodels⟩ := exists_lowered (d := taggedPets) (o := {})
    (P := fun program =>
      (program.models.map fun m => (m.name, m.vars.map (·.name), m.imports.names)) =
        [("Cat", ["name", "tags"], []), ("Kitten", ["age"], ["Cat"]), ("Pet", ["tags"], ["List"])])
    (by decide +kernel)
  obtain ⟨r, hr, hcovered⟩ := imports_of_lowered h
  refine ⟨program, warnings, r, h, hr, hmodels, fun m hm => ?_⟩
  obtain ⟨⟨declared, copies, hvars, -, hown, hcopies⟩, -⟩ := hcovered m hm
  exact ⟨declared, copies, hvars, hown, hcopies⟩

/-- **A type may be missing.** Cats have their tags from an interface, and kittens hand them on to
the constructor of cats. Neither imports lists. -/
theorem copied_type_is_not_imported : ∃ program warnings,
    taggedPets.lowered {} = .ok (program, warnings) ∧
    (∃ m ∈ program.models, ∃ p ∈ m.vars, p.type.dataType = "List<String>" ∧
      p.type.containerType = some "List" ∧ m.classname = "Cat" ∧ "List" ∉ m.imports.names) ∧
    ∃ m ∈ program.models, ∃ p ∈ m.requiredArgs, p.type.dataType = "List<String>" ∧
      p.type.containerType = some "List" ∧ m.classname = "Kitten" ∧ "List" ∉ m.imports.names :=
  exists_lowered (by decide +kernel)

end Document

end ApiLowering
