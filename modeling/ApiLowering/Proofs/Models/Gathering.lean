import ApiLowering.Proofs.Models.Drafting
import ApiLowering.Proofs.Schema.Content

/-!
# What schemas gather

A schema gathers the properties of all its parts: its own, those of inline parts, and those of the
parts that it refers to, and so on. A model is given some of them only: those of its schema, those
that are said by a part that is not extended, and what the parent has been given, or what it
declares if it is an interface.

## Main definitions

* `Components.Gathers` — a schema gathers a property of some name.
* `Resolver.Declares` — a model declares a property of some name, beside its parent.
* `Resolver.Collects` — a model is given a property of some name, in any case.
* `Resolver.Describes`, `Resolver.TellsApart` — properties with what their names become.
* `Resolver.Unbranched` — all references among the parts lead to the parent, and so on.

## Main results

* `Resolver.DraftOf.declares_iff` — the properties of a draft are those that it declares.
* `Resolver.gathers_of_declares`, `Resolver.gathers_of_collects` — models are given what is
  gathered.
* `Resolver.collects_of_gathers` — models of unbranched schemas are given all of it.
-/

namespace ApiLowering

open Schema

/-! ## Gathering -/

/-- A schema gathers a property of some name: it says so itself or in an inline part, or a part that
it refers to gathers it. -/
inductive Components.Gathers (c : Components) : Schema → String → Prop
  | own {s : Schema} {name : String} : Says (.inline s) (.property name) → Gathers c s name
  | target {s t : Schema} {path key name : String} : Says (.inline s) (.target path) →
    c.schema path = .ok (key, t) → Gathers c t name → Gathers c s name

namespace Resolver

variable {r : Resolver} {s t : Schema} {key classname name : String}

/-- A model declares a property of some name, beside its parent. -/
def Declares (r : Resolver) (s : Schema) (name : String) : Prop :=
  ∃ targets, r.partTargets s = .ok targets ∧
    name ∈ (shapeBeside s targets (r.parentKey? targets)).properties.keys

/-- A model is given a property of some name in any case: it declares it, or its parent declares it,
or its parent is a class that is given it. -/
inductive Collects (r : Resolver) : Schema → String → Prop
  | own {s : Schema} {name : String} : r.Declares s name → Collects r s name
  | declared {s t : Schema} {key name : String} : r.HasParent s key t → t.isEnum = false →
    r.Declares t name → Collects r s name
  | inherited {s t : Schema} {key name : String} : r.HasParent s key t → t.isEnum = false →
    r.isInterface t = false → Collects r t name → Collects r s name

/-! ## Shapes -/

lemma mem_keys_add {shape : Shape} :
    name ∈ (shape.add s).properties.keys ↔
      name ∈ shape.properties.keys ∨ Says (.inline s) (.property name) := by
  have h := (addPart_spec (.inline s) shape name).1
  rwa [Shape.addPart] at h

/-- The properties beside a parent are those of the schema and those of the other parts. -/
lemma mem_keys_shapeBeside {targets : List (String × Schema)} {parent : Option String} :
    name ∈ (shapeBeside s targets parent).properties.keys ↔
      Says (.inline s) (.property name) ∨
        ∃ t ∈ targets, parent ≠ some t.1 ∧ Says (.inline t.2) (.property name) := by
  have hfold (ts : List (String × Schema)) (shape : Shape) :
      name ∈ (ts.foldl (fun shape t => shape.add t.2) shape).properties.keys ↔
        name ∈ shape.properties.keys ∨ ∃ t ∈ ts, Says (.inline t.2) (.property name) := by
    induction ts generalizing shape with
    | nil => simp
    | cons t ts ih => simp [ih, mem_keys_add, or_assoc]
  rw [shapeBeside, hfold, mem_keys_ofSchema]
  simp [and_assoc]

/-! ## Parts -/

/-- What a part gathers that a schema refers to is gathered by the schema. -/
lemma gathers_of_mem_targets {targets : List (String × Schema)}
    (htargets : r.partTargets s = .ok targets) (ht : (key, t) ∈ targets)
    (h : r.components.Gathers t name) : r.components.Gathers s name := by
  obtain ⟨path, hpath, hschema⟩ := exists_mem_right_of_forall₂ (forall₂_of_mapM_eq_ok htargets) ht
  exact .target (.part (mem_partPaths_iff.1 hpath) (.ref path)) hschema h

lemma HasParent.gathers (hparent : r.HasParent s key t) (h : r.components.Gathers t name) :
    r.components.Gathers s name := by
  obtain ⟨targets, htargets, -, ht⟩ := hparent
  exact gathers_of_mem_targets htargets ht h

/-- What a model declares is gathered. -/
lemma gathers_of_declares (h : r.Declares s name) : r.components.Gathers s name := by
  obtain ⟨targets, htargets, hname⟩ := h
  rcases mem_keys_shapeBeside.1 hname with hown | ⟨⟨key, t⟩, ht, -, hown⟩
  · exact .own hown
  · exact gathers_of_mem_targets htargets ht (.own hown)

/-- What a model is given in any case is gathered. -/
theorem gathers_of_collects (h : r.Collects s name) : r.components.Gathers s name := by
  induction h with
  | own h => exact gathers_of_declares h
  | declared hparent _ h => exact hparent.gathers (gathers_of_declares h)
  | inherited hparent _ _ _ ih => exact hparent.gathers ih

/-! ## Drafts -/

/-- The properties of a draft are those that it declares. -/
lemma DraftOf.declares_iff {d : Draft} (h : DraftOf r key classname s d) (hs : s.isEnum = false) :
    name ∈ d.model.vars.map (·.baseName) ↔ r.Declares s name := by
  obtain ⟨targets, vars, htargets, -, hvars, hclass⟩ := h.exists_classOf hs
  have hnames : d.model.vars.map (·.baseName) = vars.map (·.baseName) := by
    rw [hclass.vars]
    cases d.model.discriminator with
    | none => rfl
    | some d =>
      rw [List.map_map]
      refine List.map_congr_left fun p _ => ?_
      rw [Function.comp_apply]
      split <;> rfl
  have hkeys : List.Forall₂ Eq
      (shapeBeside s targets (r.parentKey? targets)).properties.keys (vars.map (·.baseName)) := by
    rw [Table.keys, List.forall₂_map_left_iff, List.forall₂_map_right_iff]
    exact hvars.imp fun e p hp => hp.baseName.symm
  rw [List.forall₂_eq_eq_eq] at hkeys
  rw [hnames, ← hkeys]
  constructor
  · exact fun h => ⟨targets, htargets, h⟩
  · rintro ⟨targets', htargets', h⟩
    obtain rfl := Except.ok.inj (htargets.symm.trans htargets')
    exact h

/-- The properties of a draft go by what their names become. -/
lemma DraftOf.propertyName_eq {d : Draft} (h : DraftOf r key classname s d) :
    ∀ p ∈ d.model.vars, r.setup.names.propertyName p.baseName = .ok p.name := by
  cases h with
  | enum _ _ _ _ _ hvars =>
    intro p hp
    rw [hvars] at hp
    cases hp
  | @«class» targets vars m _ _ hvars hclass =>
    have hnamed : ∀ p ∈ vars, r.setup.names.propertyName p.baseName = .ok p.name := by
      intro p hp
      obtain ⟨e, -, hof⟩ := exists_mem_right_of_forall₂ hvars hp
      exact hof.baseName ▸ hof.name
    rw [hclass.vars]
    cases m.discriminator with
    | none => exact hnamed
    | some d =>
      intro p hp
      obtain ⟨q, hq, rfl⟩ := List.mem_map.1 hp
      have hname := hnamed q hq
      split <;> exact hname

/-! ## Properties of models -/

/-- A property is gathered by a schema, and goes by what its name becomes. -/
structure Describes (r : Resolver) (s : Schema) (p : Property) : Prop where
  gathered : r.components.Gathers s p.baseName
  name : r.setup.names.propertyName p.baseName = .ok p.name

lemma Describes.of_eq {p q : Property} (h : r.Describes s p) (hname : q.name = p.name)
    (hbaseName : q.baseName = p.baseName) : r.Describes s q :=
  ⟨hbaseName ▸ h.gathered, by rw [hbaseName, hname, h.name]⟩

lemma Describes.of_parent {p : Property} (h : r.Describes t p) (hparent : r.HasParent s key t) :
    r.Describes s p :=
  ⟨hparent.gathers h.gathered, h.name⟩

/-- No two names that a schema gathers become one. -/
def TellsApart (r : Resolver) (s : Schema) : Prop :=
  ∀ ⦃name name'⦄, r.components.Gathers s name → r.components.Gathers s name' →
    r.setup.names.propertyName name = r.setup.names.propertyName name' → name = name'

lemma TellsApart.of_parent (h : r.TellsApart s) (hparent : r.HasParent s key t) : r.TellsApart t :=
  fun _ _ hname hname' heq => h (hparent.gathers hname) (hparent.gathers hname') heq

/-- Among properties of a schema that tells them apart, the name of one is found under the name that
it becomes. -/
lemma TellsApart.mem_baseNames (h : r.TellsApart s) {ps : List Property} {v : Property}
    (hps : ∀ p ∈ ps, r.Describes s p) (hv : r.Describes s v) (hname : v.name ∈ ps.map (·.name)) :
    v.baseName ∈ ps.map (·.baseName) := by
  obtain ⟨p, hp, hname⟩ := List.mem_map.1 hname
  have heq : p.baseName = v.baseName :=
    h (hps p hp).gathered hv.gathered (by rw [(hps p hp).name, hv.name, hname])
  exact heq ▸ List.mem_map_of_mem hp

/-- Every property of a draft is gathered. -/
lemma DraftOf.describes {d : Draft} (h : DraftOf r key classname s d) :
    ∀ p ∈ d.model.vars, r.Describes s p := by
  refine fun p hp => ⟨?_, h.propertyName_eq p hp⟩
  cases hs : s.isEnum with
  | false => exact gathers_of_declares ((h.declares_iff hs).1 (List.mem_map_of_mem hp))
  | true =>
    rw [h.vars_eq_nil hs] at hp
    cases hp

end Resolver

/-! ## Unbranched schemas -/

namespace Components

variable {c : Components} {s t : Schema} {path key name : String}

/-- A schema without parts gathers its own properties. -/
lemma gathers_iff_of_nil (h : s.allOf = []) : c.Gathers s name ↔ name ∈ s.properties.keys := by
  constructor
  · intro hname
    cases hname with
    | own hstated => simpa [says_inline_iff, h] using hstated
    | target hstated => simp [says_inline_iff, h] at hstated
  · exact fun hname => .own (.property hname)

/-- A schema whose part is a reference gathers its own properties, and what is gathered there. -/
lemma gathers_iff_of_singleton (h : s.allOf = [.ref path])
    (hschema : c.schema path = .ok (key, t)) :
    c.Gathers s name ↔ name ∈ s.properties.keys ∨ c.Gathers t name := by
  constructor
  · intro hname
    cases hname with
    | own hstated => exact .inl (by simpa [says_inline_iff, h] using hstated)
    | target hstated hschema' hgathers =>
      simp only [says_inline_iff, h, List.mem_singleton, exists_eq_left, says_ref_iff, reduceCtorEq,
        and_false, exists_false, false_or, Facet.target.injEq] at hstated
      subst hstated
      obtain ⟨-, rfl⟩ := Prod.mk.inj (Except.ok.inj (hschema'.symm.trans hschema))
      exact .inr hgathers
  · rintro (hname | hgathers)
    · exact .own (.property hname)
    · exact .target (.part (h ▸ List.mem_singleton_self _) (.ref path)) hschema hgathers

end Components

namespace Resolver

variable {r : Resolver} {s t : Schema} {path key name : String}

/-- All references among the parts of a schema, at any depth, lead to its parent, which is a class
and refers to its own parent alone, and so on. -/
inductive Unbranched (r : Resolver) : Schema → Prop
  | mk {s : Schema} : (∃ targets, r.partTargets s = .ok targets) →
    (∀ path key t, Says (.inline s) (.target path) → r.components.schema path = .ok (key, t) →
      r.HasParent s key t ∧ t.isEnum = false ∧ r.isInterface t = false) →
    (∀ path key t, Says (.inline s) (.target path) → r.components.schema path = .ok (key, t) →
      Unbranched r t) → Unbranched r s

/-- A schema without parts is unbranched. -/
lemma Unbranched.of_nil (h : s.allOf = []) : r.Unbranched s := by
  have hnone {path : String} : ¬ Says (.inline s) (.target path) := by simp [says_inline_iff, h]
  refine .mk ⟨[], ?_⟩ (fun _ _ _ hstated => absurd hstated hnone)
    fun _ _ _ hstated => absurd hstated hnone
  rw [partTargets, partPaths, h]
  rfl

/-- A schema whose part is a reference to a class is unbranched if that is. -/
lemma Unbranched.of_singleton (h : s.allOf = [.ref path])
    (hschema : r.components.schema path = .ok (key, t)) (hextensible : r.isExtensible key = true)
    (hclass : t.isEnum = false) (hinterface : r.isInterface t = false) (ht : r.Unbranched t) :
    r.Unbranched s := by
  have htargets : r.partTargets s = .ok [(key, t)] := by
    rw [partTargets, partPaths, h]
    simp [Referable.path?, hschema]
  have hparent : r.HasParent s key t :=
    ⟨_, htargets, by simp [parentKey?, hextensible], List.mem_singleton_self _⟩
  have hunique {path' key' : String} {t' : Schema} (hstated : Says (.inline s) (.target path'))
      (hschema' : r.components.schema path' = .ok (key', t')) : key' = key ∧ t' = t := by
    simp only [says_inline_iff, h, List.mem_singleton, exists_eq_left, says_ref_iff, reduceCtorEq,
      and_false, exists_false, false_or, Facet.target.injEq] at hstated
    subst hstated
    exact Prod.mk.inj (Except.ok.inj (hschema'.symm.trans hschema))
  refine .mk ⟨_, htargets⟩ (fun path' key' t' hstated hschema' => ?_)
    fun path' key' t' hstated hschema' => ?_
  · obtain ⟨rfl, rfl⟩ := hunique hstated hschema'
    exact ⟨hparent, hclass, hinterface⟩
  · obtain ⟨rfl, rfl⟩ := hunique hstated hschema'
    exact ht

/-- The model of an unbranched schema is given all that the schema gathers. -/
theorem collects_of_gathers (hs : r.Unbranched s) (h : r.components.Gathers s name) :
    r.Collects s name := by
  induction h with
  | own hstated =>
    obtain ⟨⟨targets, htargets⟩, -, -⟩ := hs
    exact .own ⟨targets, htargets, mem_keys_shapeBeside.2 (.inl hstated)⟩
  | target hstated hschema _ ih =>
    obtain ⟨-, hparent, hrest⟩ := hs
    obtain ⟨hparent, hclass, hinterface⟩ := hparent _ _ _ hstated hschema
    exact .inherited hparent hclass hinterface (ih (hrest _ _ _ hstated hschema))

end Resolver

end ApiLowering
