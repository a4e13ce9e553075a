import ApiLowering.Models.Draft
import ApiLowering.Proofs.Models.ClassNames
import ApiLowering.Proofs.Models.Descendants
import ApiLowering.Proofs.Models.Inheritance

/-!
# Models that discriminators map to

A discriminator maps to the models that it names, to those that are alternatives of its schema, and
to those that descend from it. Models extend what their parts lead to, through any number of
components that only refer to others. The search for descendants goes by the keys that are written,
so a model whose part is another name for the schema of a discriminator is missing there, and so is
all that extends it.

## Main definitions

* `Schema.RefersTo` — a reference to a component by its key.
* `Resolver.MapsTo` — what a discriminator maps to.
* `Model.ExtendsByKey` — a model extends another one, and its schema refers to that one by its key.

## Main results

* `Resolver.mem_modelNames_iff` — the class names that a discriminator maps to.
* `Resolver.Builds.not_transGen_extends` — no model extends itself.
* `Resolver.Builds.exists_part` — what a model extends is what a part of its schema leads to.
* `Document.mappedModels_of_lowered` — discriminators in all programs.
* `Document.alias_hides_descendants` — a discriminator that misses what extends its model.
-/

namespace ApiLowering

open Relation Schema

/-- A reference to a component by its key. -/
def Schema.RefersTo (a : SchemaRef) (key : String) : Prop :=
  ∃ path, a = .ref path ∧ Reference.keyIn "schemas" path = .ok key

/-! ## What discriminators map to -/

namespace Resolver

variable {r : Resolver} {s s' : Session} {key k name : String} {schema : Schema}
  {declared : Discriminator}

/-- A discriminator maps to a component if it names it, if its schema has it as an alternative, or
if it descends from the schema. -/
inductive MapsTo (r : Resolver) (key : String) (schema : Schema) (declared : Discriminator)
    (k : String) : Prop
  | named {value target : String} : (value, target) ∈ declared.mapping.entries →
    targetKey? target = some k → MapsTo r key schema declared k
  | alternative {a : SchemaRef} : a ∈ schema.oneOf → RefersTo a k → MapsTo r key schema declared k
  | descendant : k ≠ key → TransGen r.components.HasPart k key → MapsTo r key schema declared k

lemma mem_implicitTargets_iff : k ∈ r.implicitTargets key schema ↔
    (∃ a ∈ schema.oneOf, RefersTo a k) ∨ k ≠ key ∧ TransGen r.components.HasPart k key := by
  rw [implicitTargets, List.mem_append, Components.mem_descendants_iff, List.mem_filterMap]
  refine or_congr_left (exists_congr fun a => and_congr_right fun _ => ?_)
  cases a with
  | inline s => simp [Referable.path?, RefersTo]
  | ref path =>
    cases hkey : Reference.keyIn "schemas" path <;>
      simp [Referable.path?, RefersTo, Except.toOption, hkey]

/-- The class names that some targets stand for. -/
def modelNames (m : MappedTargets) : List String := m.models.map (·.modelName)

lemma mem_modelNames_push {m : MappedTargets} {value target classname : String} :
    name ∈ modelNames (m.push value target classname) ↔ name ∈ modelNames m ∨ name = classname := by
  simp [modelNames, MappedTargets.push]

lemma mem_modelNames_mapExplicit {m m' : MappedTargets} {value target : String}
    (h : r.mapExplicit key m value target s = .ok (m', s')) : name ∈ modelNames m' ↔
      name ∈ modelNames m ∨ ∃ k, targetKey? target = some k ∧ r.classname? k = some name := by
  rw [mapExplicit] at h
  cases hfound : (targetKey? target).bind fun k => (r.classname? k).map fun name => (k, name) with
  | some found =>
    obtain ⟨k, classname⟩ := found
    simp only [hfound] at h
    obtain ⟨k', hk, hclass⟩ := Option.bind_eq_some_iff.1 hfound
    obtain ⟨classname', hclassname, heq⟩ := Option.map_eq_some_iff.1 hclass
    obtain ⟨rfl, rfl⟩ := Prod.mk.inj heq
    obtain ⟨rfl, -⟩ := Lowering.pure_eq_ok_iff.1 h
    change name ∈ modelNames (m.push value k' classname') ↔ _
    rw [mem_modelNames_push]
    simp [hk, hclassname, eq_comm]
  | none =>
    simp only [hfound] at h
    obtain ⟨_, _, -, h⟩ := Lowering.bind_eq_ok_iff.1 h
    obtain ⟨rfl, -⟩ := Lowering.pure_eq_ok_iff.1 h
    refine (or_iff_left ?_).symm
    rintro ⟨k, hk, hclassname⟩
    simp [hk, hclassname] at hfound

/-- A model is mapped to once: where its class name is there, nothing is added. -/
lemma mem_modelNames_mapImplicit {m m' : MappedTargets}
    (h : r.mapImplicit key m k s = .ok (m', s')) :
    name ∈ modelNames m' ↔ name ∈ modelNames m ∨ r.classname? k = some name := by
  rw [mapImplicit] at h
  cases hclass : r.classname? k with
  | none =>
    simp only [hclass] at h
    obtain ⟨_, _, -, h⟩ := Lowering.bind_eq_ok_iff.1 h
    obtain ⟨rfl, -⟩ := Lowering.pure_eq_ok_iff.1 h
    simp
  | some classname =>
    simp only [hclass] at h
    rw [Option.some.injEq]
    split at h
    · rename_i hany
      obtain ⟨rfl, -⟩ := Lowering.pure_eq_ok_iff.1 h
      refine (or_iff_left_of_imp ?_).symm
      rintro rfl
      simpa [modelNames] using hany
    · obtain ⟨rfl, -⟩ := Lowering.pure_eq_ok_iff.1 h
      exact mem_modelNames_push.trans (or_congr_right eq_comm)

/-- **The class names that a discriminator maps to** are those of the components that it maps to, as
far as these become models. -/
theorem mem_modelNames_iff {m : ModelDiscriminator}
    (h : r.discriminator key schema declared s = .ok (m, s')) :
    name ∈ m.mappedModels.map (·.modelName) ↔
      ∃ k, r.MapsTo key schema declared k ∧ r.classname? k = some name := by
  rw [discriminator] at h
  obtain ⟨propertyName, _, -, h⟩ := Lowering.bind_eq_ok_iff.1 h
  obtain ⟨explicit, _, hexplicit, h⟩ := Lowering.bind_eq_ok_iff.1 h
  obtain ⟨all, _, hall, h⟩ := Lowering.bind_eq_ok_iff.1 h
  obtain ⟨propertyType, _, -, h⟩ := Lowering.bind_eq_ok_iff.1 h
  obtain ⟨rfl, -⟩ := Lowering.pure_eq_ok_iff.1 h
  have hnamed : name ∈ modelNames explicit ↔ ∃ e ∈ declared.mapping.entries, ∃ k,
      targetKey? e.2 = some k ∧ r.classname? k = some name := by
    refine Lowering.foldlM_induction (P := fun done m => name ∈ modelNames m ↔ ∃ e ∈ done, ∃ k,
      targetKey? e.2 = some k ∧ r.classname? k = some name) hexplicit (by simp [modelNames]) ?_
    rintro done ⟨value, target⟩ - m t m' t' hm hstep
    rw [mem_modelNames_mapExplicit hstep, hm]
    simp only [List.mem_append, List.mem_singleton, or_and_right, exists_or, exists_eq_left]
  have hfound : name ∈ modelNames all ↔ name ∈ modelNames explicit ∨
      ∃ k ∈ r.implicitTargets key schema, r.classname? k = some name := by
    refine Lowering.foldlM_induction (P := fun done m => name ∈ modelNames m ↔
      name ∈ modelNames explicit ∨ ∃ k ∈ done, r.classname? k = some name) hall (by simp) ?_
    rintro done k - m t m' t' hm hstep
    rw [mem_modelNames_mapImplicit hstep, hm]
    simp only [List.mem_append, List.mem_singleton, or_and_right, exists_or, exists_eq_left,
      or_assoc]
  refine hfound.trans ((or_congr_left hnamed).trans ?_)
  constructor
  · rintro (⟨⟨value, target⟩, he, k, hk, hclass⟩ | ⟨k, hk, hclass⟩)
    · exact ⟨k, .named he hk, hclass⟩
    · rcases mem_implicitTargets_iff.1 hk with ⟨a, ha, hrefers⟩ | ⟨hne, hreach⟩
      · exact ⟨k, .alternative ha hrefers, hclass⟩
      · exact ⟨k, .descendant hne hreach, hclass⟩
  · rintro ⟨k, hmaps, hclass⟩
    cases hmaps with
    | named he hk => exact .inl ⟨_, he, k, hk, hclass⟩
    | alternative ha hrefers =>
      exact .inr ⟨k, mem_implicitTargets_iff.2 (.inl ⟨_, ha, hrefers⟩), hclass⟩
    | descendant hne hreach =>
      exact .inr ⟨k, mem_implicitTargets_iff.2 (.inr ⟨hne, hreach⟩), hclass⟩

/-! ## The drafts of models with discriminators -/

/-- What the draft of a model has from the alternatives and the discriminator of its schema. -/
lemma exists_discriminator_of_draft {classname : String} {d : Draft}
    (h : r.draft key classname schema s = .ok (d, s')) {m : ModelDiscriminator}
    (hm : d.model.discriminator = some m) :
    (∃ declared t t', schema.keywords.discriminator = some declared ∧
      r.discriminator key schema declared t = .ok (m, t')) ∧
    ∃ t t', r.memberTypes schema.oneOf t = .ok (d.model.oneOf, t') := by
  cases drafted_of_draft h with
  | enum => cases hm
  | «class» _ _ honeOf _ _ hdiscriminator =>
    obtain ⟨t, t', honeOf⟩ := honeOf
    refine ⟨?_, t, t', honeOf⟩
    obtain rfl := hm
    generalize schema.keywords.discriminator = declared at hdiscriminator
    cases hdiscriminator with
    | some hfound =>
      obtain ⟨σ, σ', hfound⟩ := hfound
      exact ⟨_, σ, σ', rfl, hfound⟩

/-! ## References to models -/

/-- The table of models holds no key twice, and none that is mapped to another type. -/
lemma nodup_keys_of_build {setup : Setup} {c : Components} {table : ModelTable}
    (h : ModelTable.build setup c s = .ok (table, s')) :
    table.keys.Nodup ∧ ∀ k ∈ table.keys, setup.options.schemaMapping.contains k = false := by
  refine ModelTable.build_induction (P := fun _ table _ => table.keys.Nodup ∧
    ∀ k ∈ table.keys, setup.options.schemaMapping.contains k = false) h
    ⟨List.nodup_nil, fun k hk => (List.not_mem_nil hk).elim⟩ (fun _ _ _ _ _ hkept _ => hkept) ?_
  rintro - key schema table t classname t' ⟨hnodup, hunmapped⟩ - hkey -
  refine ⟨Table.nodup_keys_insert hnodup, fun k hk => ?_⟩
  rcases Table.mem_keys_insert.1 hk with rfl | hk
  · exact hkey
  · exact hunmapped k hk

/-- A component schema that needs a model has an entry, unless it is mapped. -/
lemma mem_keys_of_build {setup : Setup} {c : Components} {table : ModelTable} {schema : Schema}
    (h : ModelTable.build setup c s = .ok (table, s'))
    (hschema : (k, .inline schema) ∈ c.schemas.entries) (hneeds : schema.needsModel = true)
    (hunmapped : setup.options.schemaMapping.contains k = false) : k ∈ table.keys := by
  refine ModelTable.build_induction (P := fun done table _ => (k, .inline schema) ∈ done →
    k ∈ table.keys) h (fun hmem => (List.not_mem_nil hmem).elim) ?_ ?_ hschema
  · intro done key ref table t hdone hpassed hmem
    rcases List.mem_append.1 hmem with hmem | hmem
    · exact hdone hmem
    · obtain ⟨rfl, rfl⟩ := Prod.mk.inj (List.mem_singleton.1 hmem)
      exact (Bool.false_ne_true (hunmapped.symm.trans (hpassed schema rfl hneeds))).elim
  · intro done key schema' table t classname t' hdone _ _ _ hmem
    refine Table.mem_keys_insert.2 ?_
    rcases List.mem_append.1 hmem with hmem | hmem
    · exact .inr (hdone hmem)
    · exact .inl (Prod.mk.inj (List.mem_singleton.1 hmem)).1

/-- A reference to a model by its key has the type of its class. -/
lemma dataType_of_resolve {entry : ModelEntry} {a : SchemaRef} {t : ResolvedType}
    (h : r.resolve a s = .ok (t, s')) (ha : RefersTo a k) (hentry : r.models.find? k = some entry)
    (hunmapped : r.setup.options.schemaMapping.contains k = false) :
    t.facts.dataType = entry.classname := by
  obtain ⟨path, rfl, hkey⟩ := ha
  have hmapping : r.setup.options.schemaMapping.find? k = none := by
    rwa [← Option.not_isSome_iff_eq_none, Bool.not_eq_true]
  rw [resolve, typeOf, depth, pathType] at h
  obtain ⟨k', _, hk', h⟩ := Lowering.bind_eq_ok_iff.1 h
  obtain rfl := Except.ok.inj (hkey.symm.trans (Lowering.lift_eq_ok_iff.1 hk').1)
  simp only [namedType?, hmapping, hentry, Lowering.pure_eq_ok_iff] at h
  rw [← h.1]
  rfl

end Resolver

/-! ## Models and the parts of their schemas -/

namespace Model

/-- A model extends another one, and its schema refers to that one by its key. -/
def ExtendsByKey (c : Components) (models : List Model) (a p : Model) : Prop :=
  a.Extends models p ∧ c.HasPart a.name p.name

end Model

namespace Resolver.Builds

variable {r : Resolver} {ds folded : Drafts} {g : Property → Property} {models : List Model}
  {a p m : Model} {k name : String}

/-- **No model extends itself**, directly or not. -/
theorem not_transGen_extends (h : Builds r ds folded g models) (hm : m ∈ models) :
    ¬ TransGen (Model.Extends models) m m := by
  obtain ⟨key, d, alone, last, hway, hfinished⟩ := h.exists_way_of_mem hm
  obtain ⟨line, hline, -⟩ := h.exists_line hway.fold m hfinished
  clear hway hfinished hm
  induction hline with
  | root hroot =>
    intro hcycle
    obtain ⟨p, hextends, -⟩ := TransGen.head'_iff.1 hcycle
    cases hroot.parentSchema.symm.trans hextends.2.2
  | @child m p line hinherits _ ih =>
    -- the cycle goes through the parent, so that this extends itself
    intro hcycle
    obtain ⟨q, hextends, hrest⟩ := TransGen.head'_iff.1 hcycle
    have hname : q.name = p.name :=
      Option.some.inj (hextends.2.2.symm.trans hinherits.extends_.2.2)
    obtain rfl := h.eq_of_name_eq hextends.1 hinherits.extends_.1 hname
    exact ih (TransGen.tail' hrest hextends)

/-- **What a model extends is what a part of its schema leads to.** -/
theorem exists_part (h : Builds r ds folded g models) (ha : a ∈ models)
    (hextends : a.Extends models p) : ∃ s path t, r.SchemaAt a.name s ∧ path ∈ partPaths s ∧
      r.components.schema path = .ok (p.name, t) := by
  obtain ⟨key, d, alone, last, hway, hfinished⟩ := h.exists_way_of_mem ha
  cases hfound : folded.parent? alone with
  | none =>
    have hroot := (h.isRoot hway hfinished hfound).1
    cases hroot.parentSchema.symm.trans hextends.2.2
  | some parent =>
    obtain ⟨q, hinherits, -, hq⟩ := h.exists_inheritsFrom hway hfinished hfound
    obtain ⟨k, hk, hparent⟩ := Option.bind_eq_some_iff.1 hfound
    obtain ⟨d', alone', hway'⟩ := h.exists_way_of_find? hparent
    have hname : k = p.name := by
      rw [← hway'.name, ← hq.name]
      exact Option.some.inj (hinherits.extends_.2.2.symm.trans hextends.2.2)
    subst hname
    obtain ⟨hdraft, -⟩ := hway.liftedFrom.parentKey_eq_some_iff.1 hk
    obtain ⟨s, classname, hs, hof⟩ := h.exists_draftOf hway.draft
    obtain ⟨t, targets, htargets, -, ht⟩ := hof.hasParent hdraft
    obtain ⟨path, hpath, hleads⟩ := exists_mem_right_of_forall₂ (forall₂_of_mapM_eq_ok htargets) ht
    refine ⟨s, path, t, ?_, hpath, hleads⟩
    rwa [hfinished.name, hway.name]

/-- Where no component is another name for one, models refer to what they extend by its key. -/
lemma hasPart_of_extends (h : Builds r ds folded g models)
    (hnames : ∀ key path, r.components.schemas.find? key ≠ some (.ref path)) (ha : a ∈ models)
    (hextends : a.Extends models p) : r.components.HasPart a.name p.name := by
  -- a chain of references ends where it starts
  have hkey {path key : String} {t : Schema} (hpath : r.components.schema path = .ok (key, t)) :
      Reference.keyIn "schemas" path = .ok key ∧
        r.components.schemas.find? key = some (.inline t) := by
    obtain ⟨keys, hleads⟩ := Reference.follow_eq_ok_iff.1 hpath
    cases hleads with
    | here hkey hfind => exact ⟨hkey, hfind⟩
    | step _ hfind => exact absurd hfind (hnames _ _)
  obtain ⟨s, path, t, ⟨last, hs⟩, hpath, hleads⟩ := h.exists_part ha hextends
  obtain ⟨hlast, hfind⟩ := hkey hs
  obtain rfl := Except.ok.inj ((Reference.keyIn_toSchema a.name).symm.trans hlast)
  exact ⟨.inline s, Table.mem_of_find?_eq_some hfind,
    Components.mem_partKeys_inline_iff.2 ⟨path, hpath, (hkey hleads).1⟩⟩

/-- The class name of a component is that of its model. -/
lemma classname?_eq_some_iff (h : Builds r ds folded g models) (hnodup : r.models.keys.Nodup) :
    r.classname? k = some name ↔ ∃ p ∈ models, p.name = k ∧ p.classname = name := by
  obtain ⟨s, s', hdrafts⟩ := h.drafts
  have hfind {e : String × ModelEntry} (he : e ∈ r.models.entries) :
      r.classname? e.1 = some e.2.classname := by
    rw [classname?, Table.find?_eq_some_of_mem hnodup he, Option.map_some]
  constructor
  · intro hclass
    obtain ⟨entry, hentry, rfl⟩ := Option.map_eq_some_iff.1 hclass
    have hkey : k ∈ models.map (·.name) := by
      rw [h.names_eq]
      exact (drafts_spec hdrafts).2.1 _ (Table.mem_of_find?_eq_some hentry)
    obtain ⟨p, hp, rfl⟩ := List.mem_map.1 hkey
    obtain ⟨e, he, hname, hclassname⟩ := h.exists_entry hp
    refine ⟨p, hp, rfl, Option.some.inj ?_⟩
    rw [hclassname, ← hfind he, hname, hclass]
  · rintro ⟨p, hp, rfl, rfl⟩
    obtain ⟨e, he, hname, hclassname⟩ := h.exists_entry hp
    rw [← hname, hfind he, hclassname]

end Resolver.Builds

/-! ## Programs -/

/-- **Discriminators map to what they name, to alternatives and to descendants.** What a
discriminator maps to are exactly these models, by their class names. Among them is every model that
extends that of the discriminator, by references to keys all along, and every alternative that is a
reference to the key of a model. If no component is another name for one, models extend others by
references to their keys. -/
theorem Document.mappedModels_of_lowered {d : Document} {o : Options} {program : Program}
    {warnings : List String} (h : d.lowered o = .ok (program, warnings)) :
    ∃ r, d.resolver o = .ok r ∧
      (∀ m ∈ program.models, ∀ discriminator, m.discriminator = some discriminator →
        ∃ s declared, r.SchemaAt m.name s ∧ s.keywords.discriminator = some declared ∧
          (∀ name, name ∈ discriminator.mappedModels.map (·.modelName) ↔
            ∃ p ∈ program.models, p.classname = name ∧ r.MapsTo m.name s declared p.name) ∧
          (∀ a ∈ program.models,
            TransGen (Model.ExtendsByKey r.components program.models) a m →
              a.classname ∈ discriminator.mappedModels.map (·.modelName)) ∧
          List.Forall₂ (fun alternative name => ∀ p ∈ program.models, RefersTo alternative p.name →
              name = p.classname ∧ name ∈ discriminator.mappedModels.map (·.modelName))
            s.oneOf m.oneOf) ∧
      ((∀ key path, r.components.schemas.find? key ≠ some (.ref path)) →
        ∀ a ∈ program.models, ∀ p, a.Extends program.models p →
          Model.ExtendsByKey r.components program.models a p) := by
  obtain ⟨r, ds, folded, g, hr, hbuilds⟩ := builds_of_lowered h
  obtain ⟨-, -, -, s₀, s₁, -, hbuild⟩ := exists_build_of_resolver hr
  obtain ⟨hnodup, hunmapped⟩ := Resolver.nodup_keys_of_build hbuild
  refine ⟨r, hr, fun m hm discriminator hdiscriminator => ?_, fun hnames a ha p hextends =>
    ⟨hextends, hbuilds.hasPart_of_extends hnames ha hextends⟩⟩
  obtain ⟨key, draft, alone, last, hway, hfinished⟩ := hbuilds.exists_way_of_mem hm
  obtain rfl : m.name = key := hfinished.name.trans hway.name
  obtain ⟨t, t', hdrafts⟩ := hbuilds.drafts
  obtain ⟨e, -, -, s, hs, u, u', hdraft⟩ :=
    (Resolver.exists_draft_of_drafts hdrafts).2.2 _ _ hway.draft
  rw [(hway.kept hfinished).2.2] at hdiscriminator
  obtain ⟨⟨declared, v, v', hdeclared, hrun⟩, w, w', honeOf⟩ :=
    Resolver.exists_discriminator_of_draft hdraft hdiscriminator
  -- components that become models and models are the same
  have hexact (name : String) : name ∈ discriminator.mappedModels.map (·.modelName) ↔
      ∃ p ∈ program.models, p.classname = name ∧ r.MapsTo m.name s declared p.name := by
    rw [Resolver.mem_modelNames_iff hrun]
    simp only [hbuilds.classname?_eq_some_iff hnodup]
    constructor
    · rintro ⟨k, hmaps, p, hp, rfl, hclass⟩
      exact ⟨p, hp, hclass, hmaps⟩
    · rintro ⟨p, hp, hclass, hmaps⟩
      exact ⟨p.name, hmaps, p, hp, rfl, hclass⟩
  refine ⟨s, declared, hs, hdeclared, hexact, fun a ha hchain => ?_, ?_⟩
  · refine (hexact _).2 ⟨a, ha, rfl, .descendant (fun hname => ?_) ?_⟩
    · obtain rfl := hbuilds.eq_of_name_eq ha hm hname
      exact hbuilds.not_transGen_extends hm (hchain.lift id fun _ _ => And.left)
    · exact hchain.lift Model.name fun _ _ => And.right
  · rw [hway.oneOf_eq hfinished]
    have hall := (List.forall₂_and_left _ _).2 ⟨fun a ha => ha, Lowering.forall₂_of_mapM honeOf⟩
    refine hall.imp ?_
    rintro a name ⟨ha, x, x', hresolve⟩ p hp hrefers
    obtain ⟨type, _, htype, hresolve⟩ := Lowering.bind_eq_ok_iff.1 hresolve
    obtain ⟨rfl, -⟩ := Lowering.pure_eq_ok_iff.1 hresolve
    have hclass : r.classname? p.name = some p.classname :=
      (hbuilds.classname?_eq_some_iff hnodup).2 ⟨p, hp, rfl, rfl⟩
    obtain ⟨entry, hentry, hclassname⟩ := Option.map_eq_some_iff.1 hclass
    have hname := (Resolver.dataType_of_resolve htype hrefers hentry
      (hunmapped _ (Table.mem_keys_of_find? hentry))).trans hclassname
    exact ⟨hname, (hexact _).2 ⟨p, hp, hname.symm, .alternative ha hrefers⟩⟩

/-- Kittens extend cats, and cats extend pets, by their keys; so pets may be of both kinds. -/
theorem Document.mappedModels_of_lowered_kitten : ∃ program warnings r,
    (petsByKind "Pet").lowered {} = .ok (program, warnings) ∧
    (petsByKind "Pet").resolver {} = .ok r ∧
    ∃ m ∈ program.models, ∃ discriminator, m.discriminator = some discriminator ∧
      ∃ kitten ∈ program.models,
        TransGen (Model.ExtendsByKey r.components program.models) kitten m ∧
        kitten.classname = "Kitten" ∧
        kitten.classname ∈ discriminator.mappedModels.map (·.modelName) := by
  obtain ⟨program, warnings, h, m, hm, cat, hcat, kitten, hkitten, hsome, hclass,
      ⟨hmName, hcatName, hkittenName⟩, hcatExtends, hkittenExtends⟩ :=
    exists_lowered (d := petsByKind "Pet") (o := {})
      (P := fun program => ∃ m ∈ program.models, ∃ cat ∈ program.models, ∃ kitten ∈ program.models,
        m.discriminator.isSome = true ∧ kitten.classname = "Kitten" ∧
          (m.name = "Pet" ∧ cat.name = "Cat" ∧ kitten.name = "Kitten") ∧
          (cat.parent = some m.classname ∧ cat.parentSchema = some m.name) ∧
          (kitten.parent = some cat.classname ∧ kitten.parentSchema = some cat.name))
      (by decide +kernel)
  obtain ⟨discriminator, hdiscriminator⟩ := Option.isSome_iff_exists.1 hsome
  obtain ⟨r, hr, hcatPart, hkittenPart⟩ := exists_resolver (d := petsByKind "Pet") (o := {})
    (P := fun r => "Cat" ∈ r.components.children "Pet" ∧ "Kitten" ∈ r.components.children "Cat")
    (by decide +kernel)
  obtain ⟨r', hr', hmapped, -⟩ := mappedModels_of_lowered h
  obtain rfl := Except.ok.inj (hr.symm.trans hr')
  have hcatLink : Model.ExtendsByKey r.components program.models cat m :=
    ⟨⟨hm, hcatExtends⟩, by rwa [hcatName, hmName, ← Components.mem_children_iff]⟩
  have hkittenLink : Model.ExtendsByKey r.components program.models kitten cat :=
    ⟨⟨hcat, hkittenExtends⟩, by rwa [hkittenName, hcatName, ← Components.mem_children_iff]⟩
  have hchain := TransGen.head hkittenLink (TransGen.single hcatLink)
  obtain ⟨s, declared, -, -, -, hcovers, -⟩ := hmapped m hm discriminator hdiscriminator
  exact ⟨program, warnings, r, h, hr, m, hm, discriminator, hdiscriminator, kitten, hkitten, hchain,
    hclass, hcovers kitten hkitten hchain⟩

/-- **Another name for a schema hides what descends from it.** Cats have animals as a part, which
are another name for pets. So they extend pets, and kittens extend cats, but the discriminator of
pets maps to none of them. -/
theorem Document.alias_hides_descendants : ∃ program warnings,
    (petsByKind "Animal").lowered {} = .ok (program, warnings) ∧
    ∃ m ∈ program.models, ∃ discriminator ∈ m.discriminator, ∃ cat ∈ program.models,
      cat.parentSchema = some m.name ∧
        cat.classname ∉ discriminator.mappedModels.map (·.modelName) ∧
        ∃ kitten ∈ program.models, kitten.parentSchema = some cat.name ∧
          kitten.classname ∉ discriminator.mappedModels.map (·.modelName) :=
  exists_lowered (by decide +kernel)

end ApiLowering
