import ApiLowering.Proofs.Document.Samples
import ApiLowering.Proofs.Models.Built
import ApiLowering.Proofs.Models.Overriding

/-!
# Inheritance and constructors

The models of a program inherit along lines of parents that end: the properties of a model are those
of its parent, overridden by its own, so that each name stands for the nearest declaration.

The constructor of a model takes its own arguments first and then the inherited ones, while children
are handed the inherited ones first. Both lists have the same names, so that a model takes
everything that the constructors of its ancestors take.

## Main definitions

* `Model.Extends` — a model extends another one of the program.
* `Model.Line` — the line of parents of a model, from the model itself on.

## Main results

* `Resolver.Builds.exists_inherits` — what a model has from its parent.
* `Resolver.Builds.exists_line` — each name stands for the nearest declaration.
* `Document.inheritance_of_lowered` — inheritance in all programs.
* `Resolver.Builds.constructor_of_extends` — a constructor takes what that of the parent takes.
* `Resolver.Builds.mem_requiredArgs`, `Resolver.Builds.mem_names_requiredArgs` — what it takes
  itself.
* `Document.constructors_of_lowered` — constructors in all programs.
-/

namespace ApiLowering

open Relation Property

/-! ## Lines of models -/

namespace Model

/-- A model extends another one of the program. -/
def Extends (models : List Model) (m p : Model) : Prop :=
  p ∈ models ∧ m.parent = some p.classname ∧ m.parentSchema = some p.name

/-- What a model that extends nothing has. -/
structure IsRoot (m : Model) : Prop where
  parent : m.parent = none
  parentSchema : m.parentSchema = none
  parentVars : m.parentVars = []
  allVars : m.allVars = overridden [] m.vars

/-- What a model has from the one that it extends. -/
structure InheritsFrom (models : List Model) (m p : Model) : Prop where
  extends_ : Extends models m p
  parentVars : m.parentVars = p.allVars
  allVars : m.allVars = overridden p.allVars m.vars

/-- The line of parents of a model, from the model itself on. -/
inductive Line (models : List Model) : Model → List Model → Prop
  | root {m : Model} : IsRoot m → Line models m [m]
  | child {m p : Model} {line : List Model} : InheritsFrom models m p → Line models p line →
    Line models m (m :: line)

end Model

/-! ## Parents -/

namespace Resolver.Builds

variable {r : Resolver} {ds folded : Drafts} {g : Property → Property} {models : List Model}
  {key : String} {keys : List String} {d alone last : Draft} {m : Model}

/-- **What holds of every draft when it holds of its parent holds of all drafts**, as lines of
ancestors end. -/
theorem parent_induction (P : Draft → Prop) (h : Builds r ds folded g models)
    (hstep : ∀ {key d alone last}, Way r ds folded key d alone last →
      (∀ parent, folded.parent? alone = some parent → P parent) → P last)
    (hlast : folded.find? key = some last) : P last := by
  obtain ⟨d, alone, hway⟩ := h.exists_way_of_find? hlast
  have hkey : key ∈ (r.setup.linkInterfaces ds).keys := by
    rw [Setup.keys_linkInterfaces]
    exact Table.mem_keys_of_find? hway.draft
  obtain ⟨keys, hline⟩ : ∃ keys, Drafts.Lineage (r.lifted ds) key keys := h.inherited.line key hkey
  clear hkey
  induction hline generalizing d alone last with
  | missing hnone =>
    rw [hway.lift] at hnone
    cases hnone
  | root hd hroot =>
    obtain rfl := Option.some.inj (hway.lift.symm.trans hd)
    refine hstep hway fun parent hparent => ?_
    rw [Drafts.parent?, hroot] at hparent
    cases hparent
  | step hd hlink _ ih =>
    obtain rfl := Option.some.inj (hway.lift.symm.trans hd)
    refine hstep hway fun parent hparent => ?_
    rw [Drafts.parent?, hlink] at hparent
    obtain ⟨d', alone', hway'⟩ := h.exists_way_of_find? hparent
    exact ih hparent d' alone' hway'

/-- No name stands for two properties. -/
lemma nodup_names_allVars (h : Builds r ds folded g models) (hlast : folded.find? key = some last) :
    (last.model.allVars.map (·.name)).Nodup := by
  refine h.parent_induction (fun last => (last.model.allVars.map (·.name)).Nodup)
    (fun {key d alone last} hway hparent => ?_) hlast
  rw [hway.eq_fold]
  refine nodup_names_overrideAll ?_
  cases hfound : folded.parent? alone with
  | none => exact List.nodup_nil
  | some parent => exact hparent parent hfound

/-- No name stands for two inherited properties. -/
lemma nodup_names_inherited (h : Builds r ds folded g models) (alone : Draft) :
    ((((folded.parent? alone).map Draft.model).getD {}).allVars.map (·.name)).Nodup := by
  cases hfound : folded.parent? alone with
  | none => exact List.nodup_nil
  | some parent =>
    obtain ⟨k, -, hk⟩ := Option.bind_eq_some_iff.1 hfound
    exact h.nodup_names_allVars hk

/-- The properties of a folded draft are those of its parent, overridden by its own, and so they are
when all of them are finished. -/
lemma map_allVars (h : Builds r ds folded g models) (hway : Way r ds folded key d alone last) :
    last.model.allVars.map g = Property.overridden
      ((((folded.parent? alone).map Draft.model).getD {}).allVars.map g)
      (last.model.vars.map g) := by
  rw [hway.eq_fold, ← map_overridden fun p => (h.finishing p).name,
    ← overrideAll_eq (h.nodup_names_inherited alone)]
  rfl

/-- A model whose draft has no parent extends nothing. -/
lemma isRoot (h : Builds r ds folded g models) (hway : Way r ds folded key d alone last)
    (hm : last.model.FinishedFrom g m) (hnone : folded.parent? alone = none) :
    m.IsRoot ∧ m.parentRequiredArgs = [] := by
  have hall := h.map_allVars hway
  rw [hnone] at hall
  obtain ⟨_, _, _, rfl⟩ := hm
  rw [hway.eq_fold, hnone] at hall ⊢
  exact ⟨⟨rfl, rfl, rfl, hall⟩, rfl⟩

/-- A model whose draft has a parent inherits from what this has become. -/
lemma exists_inheritsFrom (h : Builds r ds folded g models)
    (hway : Way r ds folded key d alone last) (hm : last.model.FinishedFrom g m) {parent : Draft}
    (hsome : folded.parent? alone = some parent) :
    ∃ p, m.InheritsFrom models p ∧ m.parentRequiredArgs = p.requiredArgs ∧
      parent.model.FinishedFrom g p := by
  obtain ⟨k, -, hk⟩ := Option.bind_eq_some_iff.1 hsome
  obtain ⟨p, hp, hfinished⟩ := h.exists_model hk
  refine ⟨p, ?_, ?_, hfinished⟩
  all_goals
    have hall := h.map_allVars hway
    obtain ⟨_, _, _, rfl⟩ := hm
    obtain ⟨_, _, _, rfl⟩ := hfinished
    rw [hway.eq_fold, hsome] at hall ⊢
  · exact ⟨⟨hp, rfl, rfl⟩, rfl, hall⟩
  · rfl

/-- Every model has a line of parents, and each name stands for the nearest declaration on it. -/
lemma exists_line (h : Builds r ds folded g models) (hlast : folded.find? key = some last) :
    ∀ m, last.model.FinishedFrom g m → ∃ line, m.Line models line ∧
      ∀ name, m.allVars.find? (·.name == name) = line.findSome? fun a => last? a.vars name := by
  refine h.parent_induction (fun last => ∀ m, last.model.FinishedFrom g m → ∃ line,
    m.Line models line ∧ ∀ name, m.allVars.find? (·.name == name) =
      line.findSome? fun a => last? a.vars name) (fun {key d alone last} hway ih m hm => ?_) hlast
  cases hfound : folded.parent? alone with
  | none =>
    obtain ⟨hroot, -⟩ := h.isRoot hway hm hfound
    refine ⟨[m], .root hroot, fun name => ?_⟩
    rw [hroot.allVars, find?_overridden, List.findSome?_cons]
    cases last? m.vars name <;> rfl
  | some parent =>
    obtain ⟨p, hinherits, -, hp⟩ := h.exists_inheritsFrom hway hm hfound
    obtain ⟨line, hline, hnearest⟩ := ih parent hfound p hp
    refine ⟨m :: line, .child hinherits hline, fun name => ?_⟩
    rw [hinherits.allVars, find?_overridden, hnearest, List.findSome?_cons]
    cases last? m.vars name <;> rfl

end Resolver.Builds

/-! ## Cycles -/

/-- A puppy has the name of an animal in the place that animals have it. -/
example : ((Document.family.lowered {}).toOption.map fun out =>
    out.1.models.map fun m => (m.name, m.parent, m.allVars.map (·.name))) =
      some [("Animal", none, ["name"]), ("Dog", some "Animal", ["name", "bark"]),
        ("Puppy", some "Dog", ["name", "bark", "age"])] := by
  decide +kernel

/-! ## Arguments of constructors -/

/-- The names are those of both lists. -/
lemma mem_names_appendNew {ps more : List Property} {name : String} :
    name ∈ (appendNew ps more).map (·.name) ↔
      name ∈ ps.map (·.name) ∨ name ∈ more.map (·.name) := by
  constructor
  · intro h
    obtain ⟨p, hp, rfl⟩ := List.mem_map.1 h
    exact (mem_addNewBy hp).imp List.mem_map_of_mem List.mem_map_of_mem
  · rintro (h | h)
    · obtain ⟨p, hp, rfl⟩ := List.mem_map.1 h
      exact List.mem_map_of_mem (mem_addNewBy_of_mem hp)
    · obtain ⟨p, hp, rfl⟩ := List.mem_map.1 h
      exact List.mem_map.2 (Property.exists_namesake_mem_addNewBy hp)

namespace Setup

variable (setup : Setup) {d : Draft} {parent : Option Draft} {name : String}

/-- The names that a constructor takes are those that are handed to children. -/
lemma mem_names_requiredArgs_fold_iff :
    name ∈ (setup.fold d parent).model.requiredArgs.map (·.name) ↔
      name ∈ (setup.fold d parent).inheritedArgs.map (·.name) :=
  mem_names_appendNew.trans (or_comm.trans mem_names_appendNew.symm)

/-- What is inherited is taken. -/
lemma mem_names_requiredArgs_of_inherited {p : Draft} (h : name ∈ p.inheritedArgs.map (·.name)) :
    name ∈ (setup.fold d (some p)).model.requiredArgs.map (·.name) :=
  mem_names_appendNew.2 (.inr h)

end Setup

/-! ## Constructors of models -/

namespace Resolver.Builds

variable {r : Resolver} {ds folded : Drafts} {g : Property → Property} {models : List Model}
  {m p : Model}

/-- Finished properties inherit the same discriminators. -/
lemma inheritsDiscriminator_map (h : Builds r ds folded g models) (ps : List Property)
    (v : Property) : Setup.inheritsDiscriminator (ps.map g) (g v) =
      Setup.inheritsDiscriminator ps v := by
  rw [Setup.inheritsDiscriminator, Setup.inheritsDiscriminator, List.any_map]
  congr 1
  funext q
  rw [Function.comp_apply, (h.finishing q).required, (h.finishing q).name, (h.finishing v).name,
    (h.finishing q).isDiscriminator]

/-- **A constructor takes what that of the parent takes**, and hands it on. -/
theorem constructor_of_extends (h : Builds r ds folded g models) (hm : m ∈ models)
    (hextends : m.Extends models p) : m.parentRequiredArgs = p.requiredArgs ∧
      p.requiredArgs.map (·.name) ⊆ m.requiredArgs.map (·.name) := by
  obtain ⟨key, d, alone, last, hway, hfinished⟩ := h.exists_way_of_mem hm
  cases hfound : folded.parent? alone with
  | none =>
    have hroot := (h.isRoot hway hfinished hfound).1
    rw [Model.Extends, hroot.parent] at hextends
    cases hextends.2.1
  | some parent =>
    obtain ⟨q, hinherits, hargs, hq⟩ := h.exists_inheritsFrom hway hfinished hfound
    have hname : q.name = p.name :=
      Option.some.inj (hinherits.extends_.2.2.symm.trans hextends.2.2)
    obtain rfl := h.eq_of_name_eq hinherits.extends_.1 hextends.1 hname
    refine ⟨hargs, fun name hname => ?_⟩
    obtain ⟨k, -, hk⟩ := Option.bind_eq_some_iff.1 hfound
    obtain ⟨d', alone', hway'⟩ := h.exists_way_of_find? hk
    obtain ⟨_, _, _, rfl⟩ := hfinished
    obtain ⟨_, _, _, rfl⟩ := hq
    change name ∈ (parent.model.requiredArgs.map g).map (·.name) at hname
    change name ∈ (last.model.requiredArgs.map g).map (·.name)
    rw [h.names_map, hway'.eq_fold, Setup.mem_names_requiredArgs_fold_iff] at hname
    rw [h.names_map, hway.eq_fold, hfound]
    exact r.setup.mem_names_requiredArgs_of_inherited (hway'.eq_fold ▸ hname)

/-- A required property that is no discriminator is an argument. -/
theorem mem_requiredArgs (h : Builds r ds folded g models) (hm : m ∈ models) {v : Property}
    (hv : v ∈ m.requiredVars) (harg : v.facets.inRequiredArgsConstructor = true)
    (hown : v.isDiscriminator = false)
    (hinherited : Setup.inheritsDiscriminator m.parentVars v = false) : v ∈ m.requiredArgs := by
  obtain ⟨key, d, alone, last, hway, hfinished⟩ := h.exists_way_of_mem hm
  obtain ⟨_, _, _, rfl⟩ := hfinished
  rw [hway.eq_fold] at hv hinherited ⊢
  obtain ⟨w, hw, rfl⟩ := List.mem_map.1 hv
  obtain ⟨hw, hrequired⟩ := List.mem_filter.1 hw
  refine List.mem_map_of_mem (mem_addNewBy_of_mem
    (List.mem_filter.2 ⟨List.mem_filter.2 ⟨hw, ?_⟩, ?_⟩))
  · have hold : Setup.inheritsDiscriminator
        (((folded.parent? alone).map Draft.model).getD {}).allVars w = false :=
      (h.inheritsDiscriminator_map _ w).symm.trans hinherited
    have hown : w.isDiscriminator = false := (h.finishing w).isDiscriminator.symm.trans hown
    simp [hrequired, hold, hown]
  · exact (h.finishing w).inRequiredArgsConstructor.symm.trans harg

/-- The constructor of a folded draft takes all that is listed as required without being a
discriminator, inherited properties among it. -/
lemma mem_names_requiredArgs_of_mem (h : Builds r ds folded g models) {key : String} {last : Draft}
    (hlast : folded.find? key = some last) : ∀ v ∈ last.model.requiredVarsWithoutDiscriminator,
      v.facets.inRequiredArgsConstructor = true →
      v.name ∈ last.model.requiredArgs.map (·.name) := by
  refine h.parent_induction (fun last => ∀ v ∈ last.model.requiredVarsWithoutDiscriminator,
      v.facets.inRequiredArgsConstructor = true → v.name ∈ last.model.requiredArgs.map (·.name))
    (fun {key d alone last} hway ih v hv harg => ?_) hlast
  rw [hway.eq_fold] at hv ⊢
  rcases mem_addNewBy hv with hown | hinherited
  · exact mem_names_appendNew.2 (.inl (List.mem_map_of_mem (List.mem_filter.2 ⟨hown, harg⟩)))
  · cases hfound : folded.parent? alone with
    | none =>
      rw [hfound] at hinherited
      cases hinherited
    | some parent =>
      rw [hfound] at hinherited
      obtain ⟨k, -, hk⟩ := Option.bind_eq_some_iff.1 hfound
      obtain ⟨d', alone', hway'⟩ := h.exists_way_of_find? hk
      have hname := ih parent hfound v hinherited harg
      rw [hway'.eq_fold, Setup.mem_names_requiredArgs_fold_iff, ← hway'.eq_fold] at hname
      exact r.setup.mem_names_requiredArgs_of_inherited hname

/-- A constructor takes all that its model lists as required without being a discriminator. -/
theorem mem_names_requiredArgs (h : Builds r ds folded g models) (hm : m ∈ models) {v : Property}
    (hv : v ∈ m.requiredVarsWithoutDiscriminator)
    (harg : v.facets.inRequiredArgsConstructor = true) :
    v.name ∈ m.requiredArgs.map (·.name) := by
  obtain ⟨key, d, alone, last, hway, hfinished⟩ := h.exists_way_of_mem hm
  obtain ⟨_, _, _, rfl⟩ := hfinished
  obtain ⟨w, hw, rfl⟩ := List.mem_map.1 hv
  change (g w).name ∈ (last.model.requiredArgs.map g).map (·.name)
  rw [h.names_map, (h.finishing w).name]
  exact h.mem_names_requiredArgs_of_mem hway.fold w hw
    ((h.finishing w).inRequiredArgsConstructor.symm.trans harg)

end Resolver.Builds

/-! ## Constructors in programs -/

/-- **Constructors.** What the constructor of a model hands to that of its parent is what the latter
takes, and it has taken all of it itself. So it takes everything that its ancestors take: in
particular their required properties, apart from discriminators, and all else that they list as
required without being a discriminator. -/
theorem Document.constructors_of_lowered {d : Document} {o : Options} {program : Program}
    {warnings : List String} (h : d.lowered o = .ok (program, warnings)) :
    ∀ m ∈ program.models,
      (∀ p, m.Extends program.models p → m.parentRequiredArgs = p.requiredArgs ∧
        m.parentRequiredArgs.map (·.name) ⊆ m.requiredArgs.map (·.name)) ∧
      ∀ a, ReflTransGen (Model.Extends program.models) m a →
        a.requiredArgs.map (·.name) ⊆ m.requiredArgs.map (·.name) ∧
        (∀ v ∈ a.requiredVars, v.facets.inRequiredArgsConstructor = true →
          v.isDiscriminator = false → Setup.inheritsDiscriminator a.parentVars v = false →
          v ∈ a.requiredArgs ∧ v.name ∈ m.requiredArgs.map (·.name)) ∧
        ∀ v ∈ a.requiredVarsWithoutDiscriminator, v.facets.inRequiredArgsConstructor = true →
          v.name ∈ m.requiredArgs.map (·.name) := by
  obtain ⟨r, ds, folded, g, -, hbuilds⟩ := builds_of_lowered h
  intro m hm
  have hstep {m p : Model} (hm : m ∈ program.models) (hp : m.Extends program.models p) :=
    hbuilds.constructor_of_extends hm hp
  refine ⟨fun p hp => ⟨(hstep hm hp).1, (hstep hm hp).1 ▸ (hstep hm hp).2⟩, fun a hline => ?_⟩
  have hsubset : a ∈ program.models ∧
      a.requiredArgs.map (·.name) ⊆ m.requiredArgs.map (·.name) := by
    induction hline with
    | refl => exact ⟨hm, List.Subset.refl _⟩
    | tail _ hp ih => exact ⟨hp.1, List.Subset.trans (hstep ih.1 hp).2 ih.2⟩
  refine ⟨hsubset.2, fun v hv harg hown hinherited => ?_, fun v hv harg =>
    hsubset.2 (hbuilds.mem_names_requiredArgs hsubset.1 hv harg)⟩
  have hmem := hbuilds.mem_requiredArgs hsubset.1 hv harg hown hinherited
  exact ⟨hmem, hsubset.2 (List.mem_map_of_mem hmem)⟩

theorem Document.constructors_of_lowered_family : ∃ program warnings,
    family.lowered {} = .ok (program, warnings) ∧
    (program.models.map fun m => (m.name, m.requiredArgs.map (·.name))) =
      [("Animal", ["name"]), ("Dog", ["bark", "name"]), ("Puppy", ["age", "name", "bark"])] ∧
    ∀ m ∈ program.models, ∀ a, ReflTransGen (Model.Extends program.models) m a →
      a.requiredArgs.map (·.name) ⊆ m.requiredArgs.map (·.name) := by
  obtain ⟨program, warnings, h, hargs⟩ := exists_lowered (d := family) (o := {})
    (P := fun program => (program.models.map fun m => (m.name, m.requiredArgs.map (·.name))) =
      [("Animal", ["name"]), ("Dog", ["bark", "name"]), ("Puppy", ["age", "name", "bark"])])
    (by decide +kernel)
  exact ⟨program, warnings, h, hargs, fun m hm a ha => ((constructors_of_lowered h m hm).2 a ha).1⟩

end ApiLowering
