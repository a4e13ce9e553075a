import ApiLowering.Proofs.Lists
import ApiLowering.Proofs.Models.Lineage

/-!
# Folding parents into their children

A parent that is an interface ceases to be a parent: its properties are copied. Copies are made in
the order of the drafts, so they miss what the interface gets itself after that. The parents that
are left are those that are no interfaces.

After that the remaining parents are folded before their children. So every draft is folded with
what its parent has become in the end.

## Main definitions

* `Drafts.HasInterface`, `Drafts.Extends` — a draft has a parent that is an interface, or none.
* `Drafts.LiftedFrom` — a draft stays, or has its interface in the place of its parent.
* `Setup.Inherited` — every draft is folded with what its parent has become.

## Main results

* `Drafts.liftInterfaces_spec` — what every draft becomes when interfaces cease to be parents.
* `Drafts.liftInterfaces_induction` — what goes from interfaces to what is lifted from them.
* `Drafts.transGen_links_iff` — the cycles that are left.
* `Setup.foldInheritance_spec` — what folding leaves.
* `Setup.foldInheritance_eq_error_iff` — folding fails exactly if parents go round in a cycle.
-/

namespace ApiLowering

/-! ## Interfaces of models -/

namespace Model

variable (m : Model) (interface : String)

/-- A model with one more interface is the same in what counts here. -/
@[simp] lemma name_withInterface : (m.withInterface interface).name = m.name := by
  rw [withInterface]
  split <;> rfl

@[simp] lemma classname_withInterface : (m.withInterface interface).classname = m.classname := by
  rw [withInterface]
  split <;> rfl

@[simp] lemma isOneOfInterface_withInterface :
    (m.withInterface interface).isOneOfInterface = m.isOneOfInterface := by
  rw [withInterface]
  split <;> rfl

@[simp] lemma discriminator_withInterface :
    (m.withInterface interface).discriminator = m.discriminator := by
  rw [withInterface]
  split <;> rfl

@[simp] lemma oneOf_withInterface : (m.withInterface interface).oneOf = m.oneOf := by
  rw [withInterface]
  split <;> rfl

@[simp] lemma imports_withInterface : (m.withInterface interface).imports = m.imports := by
  rw [withInterface]
  split <;> rfl

@[simp] lemma vars_withInterface : (m.withInterface interface).vars = m.vars := by
  rw [withInterface]
  split <;> rfl

@[simp] lemma isEnum_withInterface : (m.withInterface interface).isEnum = m.isEnum := by
  rw [withInterface]
  split <;> rfl

end Model

namespace Property

variable (p : Property) (d : Option ModelDiscriminator)

/-- A copied property goes by the same names, and has the same type. -/
@[simp] lemma name_fromInterface : (p.fromInterface d).name = p.name := by
  rw [fromInterface]
  split <;> rfl

@[simp] lemma baseName_fromInterface : (p.fromInterface d).baseName = p.baseName := by
  rw [fromInterface]
  split <;> rfl

@[simp] lemma type_fromInterface : (p.fromInterface d).type = p.type := by
  rw [fromInterface]
  split <;> rfl

end Property

namespace Drafts

open Relation

variable {ds : Drafts} {key parent : String} {d p : Draft}

/-! ## Interfaces -/

/-- A draft has a parent that is an interface. -/
def HasInterface (ds : Drafts) (d p : Draft) : Prop :=
  ds.parent? d = some p ∧ p.model.isOneOfInterface = true

/-- A draft stays, or has its interface in the place of its parent, as that interface stood when its
properties were copied: it may have got some of them before, and more of them since. -/
inductive LiftedFrom (ds lifted : Drafts) (d : Draft) : Draft → Prop
  | stay : (∀ p, ¬ HasInterface ds d p) → LiftedFrom ds lifted d d
  | lift {parent : String} {p now : Draft} {interface : Model} : d.parentKey = some parent →
    HasInterface ds d p → lifted.find? parent = some now →
    interface.classname = p.model.classname → interface.discriminator = p.model.discriminator →
    p.model.vars <+: interface.vars → interface.vars <+: now.model.vars →
    LiftedFrom ds lifted d (d.liftInterface interface)

/-- The draft under a key with the properties of its interface, if it has one. -/
def liftAt (ds : Drafts) (key : String) : Drafts :=
  match ds.find? key with
  | none => ds
  | some d =>
    match ds.parent? d with
    | some p => if p.model.isOneOfInterface then ds.insert key (d.liftInterface p.model) else ds
    | none => ds

lemma liftInterfaces_eq (ds : Drafts) : ds.liftInterfaces = ds.keys.foldl liftAt ds := rfl

variable {lifted : Drafts} {d' : Draft}

/-- What is true of a draft apart from its properties and interfaces stays so. -/
lemma LiftedFrom.kept (h : LiftedFrom ds lifted d d') :
    d'.model.name = d.model.name ∧ d'.model.classname = d.model.classname ∧
      d'.model.isOneOfInterface = d.model.isOneOfInterface ∧
      d'.model.discriminator = d.model.discriminator ∧ d.model.vars <+: d'.model.vars := by
  cases h with
  | stay => exact ⟨rfl, rfl, rfl, rfl, List.prefix_rfl⟩
  | lift =>
    simp only [Draft.liftInterface, Model.name_withInterface, Model.classname_withInterface,
      Model.isOneOfInterface_withInterface, Model.discriminator_withInterface,
      Model.vars_withInterface, true_and]
    exact prefix_addNewBy _ _ _

/-- So do its alternatives. -/
lemma LiftedFrom.oneOf_eq (h : LiftedFrom ds lifted d d') : d'.model.oneOf = d.model.oneOf := by
  cases h with
  | stay => rfl
  | lift => exact Model.oneOf_withInterface _ _

/-- So do its imports. -/
lemma LiftedFrom.imports_eq (h : LiftedFrom ds lifted d d') :
    d'.model.imports = d.model.imports := by
  cases h with
  | stay => rfl
  | lift => exact Model.imports_withInterface _ _

/-- An enumeration stays one. -/
lemma LiftedFrom.isEnum_eq (h : LiftedFrom ds lifted d d') : d'.model.isEnum = d.model.isEnum := by
  cases h with
  | stay => rfl
  | lift => exact Model.isEnum_withInterface _ _

/-- A draft keeps its parent exactly if that is no interface. -/
lemma LiftedFrom.parentKey_eq_some_iff (h : LiftedFrom ds lifted d d') :
    d'.parentKey = some parent ↔ d.parentKey = some parent ∧ ∀ p, ¬ HasInterface ds d p := by
  cases h with
  | stay hnone => exact ⟨fun h => ⟨h, hnone⟩, And.left⟩
  | lift _ hinterface =>
    refine ⟨fun h => ?_, fun h => absurd hinterface (h.2 _)⟩
    cases h

/-- Properties that are added to interfaces later do not matter. -/
lemma LiftedFrom.mono {more : Drafts} (h : LiftedFrom ds lifted d d')
    (hmore : ∀ key now, lifted.find? key = some now →
      ∃ later, more.find? key = some later ∧ now.model.vars <+: later.model.vars) :
    LiftedFrom ds more d d' := by
  cases h with
  | stay hnone => exact .stay hnone
  | lift hparent hinterface hnow hclass hdiscriminator hbefore hvars =>
    obtain ⟨later, hlater, hfront⟩ := hmore _ _ hnow
    exact .lift hparent hinterface hlater hclass hdiscriminator hbefore (hvars.trans hfront)

/-! ## Lifting one interface after the other -/

/-- What is left of the drafts when those under some keys have been lifted. -/
structure LiftedUpTo (ds : Drafts) (visited : List String) (lifted : Drafts) : Prop where
  keys : lifted.keys = ds.keys
  change : ∀ key d, ds.find? key = some d → key ∈ visited →
    ∃ d', lifted.find? key = some d' ∧ LiftedFrom ds lifted d d'
  other : ∀ key, key ∉ visited → lifted.find? key = ds.find? key

namespace LiftedUpTo

variable {visited : List String}

/-- Every draft is still the same, apart from its properties and interfaces. -/
lemma exists_now (h : LiftedUpTo ds visited lifted) (hd : ds.find? key = some d) :
    ∃ now, lifted.find? key = some now ∧ now.model.classname = d.model.classname ∧
      now.model.isOneOfInterface = d.model.isOneOfInterface ∧
      now.model.discriminator = d.model.discriminator ∧ d.model.vars <+: now.model.vars := by
  by_cases hkey : key ∈ visited
  · obtain ⟨d', hd', hfrom⟩ := h.change key d hd hkey
    exact ⟨d', hd', hfrom.kept.2⟩
  · exact ⟨d, (h.other key hkey).trans hd, rfl, rfl, rfl, List.prefix_rfl⟩

lemma find?_eq_none (h : LiftedUpTo ds visited lifted) (hkey : ds.find? key = none) :
    lifted.find? key = none := by
  have hnot : key ∉ ds.keys := by
    rw [← Table.contains_iff, Table.contains, hkey]
    simp
  rw [← h.keys, ← Table.contains_iff, Table.contains] at hnot
  simpa using hnot

/-- A draft that has no interface stays. -/
lemma skip (h : LiftedUpTo ds visited lifted) (hkey : key ∉ visited)
    (hnone : ∀ d, ds.find? key = some d → ∀ p, ¬ HasInterface ds d p) :
    LiftedUpTo ds (visited ++ [key]) lifted where
  keys := h.keys
  change k d hd hk := by
    rcases List.mem_append.1 hk with hk | hk
    · exact h.change k d hd hk
    · obtain rfl := List.mem_singleton.1 hk
      exact ⟨d, (h.other k hkey).trans hd, .stay (hnone d hd)⟩
  other k hk := h.other k fun hmem => hk (List.mem_append_left _ hmem)

/-- A draft that has an interface is lifted. -/
lemma lift (h : LiftedUpTo ds visited lifted) (hkey : key ∉ visited) {p now : Draft}
    (hd : ds.find? key = some d) (hparent : d.parentKey = some parent)
    (hp : ds.find? parent = some p) (hinterface : p.model.isOneOfInterface = true)
    (hnow : lifted.find? parent = some now) (hclass : now.model.classname = p.model.classname)
    (hdiscriminator : now.model.discriminator = p.model.discriminator)
    (hbefore : p.model.vars <+: now.model.vars) :
    LiftedUpTo ds (visited ++ [key]) (lifted.insert key (d.liftInterface now.model)) := by
  have hself : lifted.find? key = some d := (h.other key hkey).trans hd
  have hfront : d.model.vars <+: (d.liftInterface now.model).model.vars := by
    rw [Draft.liftInterface, Model.vars_withInterface]
    exact prefix_addNewBy _ _ _
  have hmore (k : String) (old : Draft) (hold : lifted.find? k = some old) :
      ∃ later, (lifted.insert key (d.liftInterface now.model)).find? k = some later ∧
        old.model.vars <+: later.model.vars := by
    by_cases hk : k = key
    · subst hk
      rw [hself, Option.some.injEq] at hold
      exact ⟨_, Table.find?_insert_self _ _ _, hold ▸ hfront⟩
    · exact ⟨old, (Table.find?_insert_of_ne _ _ hk).trans hold, List.prefix_rfl⟩
  refine ⟨?_, fun k d' hd' hk => ?_, fun k hk => ?_⟩
  · rw [Table.keys_insert_of_mem _ _ (Table.mem_keys_of_find? hself), h.keys]
  · rcases List.mem_append.1 hk with hk | hk
    · obtain ⟨old, hold, hfrom⟩ := h.change k d' hd' hk
      have hne : k ≠ key := fun heq => hkey (heq ▸ hk)
      exact ⟨old, (Table.find?_insert_of_ne _ _ hne).trans hold, hfrom.mono hmore⟩
    · obtain rfl := List.mem_singleton.1 hk
      rw [hd, Option.some.injEq] at hd'
      subst hd'
      obtain ⟨later, hlater, hvars⟩ := hmore parent now hnow
      have hhas : HasInterface ds d p :=
        ⟨by rw [parent?, hparent, Option.bind_some, hp], hinterface⟩
      exact ⟨_, Table.find?_insert_self _ _ _,
        .lift hparent hhas hlater hclass hdiscriminator hbefore hvars⟩
  · rw [List.mem_append, List.mem_singleton, not_or] at hk
    exact (Table.find?_insert_of_ne _ _ hk.2).trans (h.other k hk.1)

/-- One more draft. -/
lemma liftAt (h : LiftedUpTo ds visited lifted) (hkey : key ∉ visited) :
    LiftedUpTo ds (visited ++ [key]) (lifted.liftAt key) := by
  rw [Drafts.liftAt, h.other key hkey]
  cases hd : ds.find? key with
  | none => exact h.skip hkey fun d hd' => by rw [hd] at hd'; cases hd'
  | some d =>
    have hskip (hnone : ∀ p, ¬ HasInterface ds d p) : LiftedUpTo ds (visited ++ [key]) lifted :=
      h.skip hkey fun d' hd' => by
        rw [hd, Option.some.injEq] at hd'
        exact hd' ▸ hnone
    cases hparent : d.parentKey with
    | none =>
      have hnone (ds : Drafts) : ds.parent? d = none := by rw [parent?, hparent, Option.bind_none]
      simp only [hnone]
      exact hskip fun p hp => by
        rw [HasInterface, hnone] at hp
        cases hp.1
    | some parent =>
      have hfind (ds : Drafts) : ds.parent? d = ds.find? parent := by
        rw [parent?, hparent, Option.bind_some]
      simp only [hfind]
      cases hp : ds.find? parent with
      | none =>
        rw [h.find?_eq_none hp]
        exact hskip fun p' hp' => by
          rw [HasInterface, hfind, hp] at hp'
          cases hp'.1
      | some p =>
        obtain ⟨now, hnow, hclass, hflag, hdiscriminator, hbefore⟩ := h.exists_now hp
        simp only [hnow]
        split
        · rename_i hinterface
          exact h.lift hkey hd hparent hp (hflag ▸ hinterface) hnow hclass hdiscriminator hbefore
        · rename_i hinterface
          exact hskip fun p' hp' => by
            rw [HasInterface, hfind, hp, Option.some.injEq] at hp'
            obtain ⟨rfl, hflag'⟩ := hp'
            exact hinterface (hflag.trans hflag')

end LiftedUpTo

/-- **What every draft becomes** when interfaces cease to be parents. -/
theorem liftInterfaces_spec (hnodup : ds.keys.Nodup) : ds.liftInterfaces.keys = ds.keys ∧
    ∀ key d, ds.find? key = some d →
      ∃ d', ds.liftInterfaces.find? key = some d' ∧ LiftedFrom ds ds.liftInterfaces d d' := by
  have hfold : ∀ visited rest lifted, (visited ++ rest).Nodup → LiftedUpTo ds visited lifted →
      LiftedUpTo ds (visited ++ rest) (rest.foldl liftAt lifted) := by
    intro visited rest
    induction rest generalizing visited with
    | nil => exact fun lifted _ h => (List.append_nil visited).symm ▸ h
    | cons key rest ih =>
      intro lifted hnodup h
      have hkey : key ∉ visited := fun hmem =>
        List.disjoint_of_nodup_append hnodup hmem List.mem_cons_self
      have hrest := ih (visited ++ [key]) (lifted.liftAt key)
      rw [List.append_assoc, List.singleton_append] at hrest
      exact hrest hnodup (h.liftAt hkey)
  have hstart : LiftedUpTo ds [] ds :=
    ⟨rfl, fun _ _ _ h => (List.not_mem_nil h).elim, fun _ _ => rfl⟩
  have hend := hfold [] ds.keys ds hnodup hstart
  rw [← liftInterfaces_eq] at hend
  exact ⟨hend.keys, fun key d hd => hend.change key d hd (Table.mem_keys_of_find? hd)⟩

/-- **What holds of all drafts and goes from interfaces to what is lifted from them holds when
interfaces have ceased to be parents.** -/
theorem liftInterfaces_induction {P : String → Draft → Prop}
    (hstart : ∀ key d, ds.find? key = some d → P key d)
    (hstep : ∀ key d parent p, P key d → P parent p → d.parentKey = some parent →
      p.model.isOneOfInterface = true → P key (d.liftInterface p.model)) :
    ∀ key d, ds.liftInterfaces.find? key = some d → P key d := by
  rw [liftInterfaces_eq]
  generalize ds.keys = keys
  induction keys generalizing ds with
  | nil => exact hstart
  | cons key keys ih =>
    refine ih fun k d hd => ?_
    rw [liftAt] at hd
    split at hd
    · exact hstart k d hd
    · rename_i old hold
      split at hd
      · rename_i p hp
        split at hd
        · rename_i hinterface
          obtain ⟨parent, hparent, hfind⟩ := Option.bind_eq_some_iff.1 hp
          by_cases hk : k = key
          · subst hk
            rw [Table.find?_insert_self, Option.some.injEq] at hd
            exact hd ▸ hstep k old parent p (hstart k old hold) (hstart parent p hfind) hparent
              hinterface
          · rw [Table.find?_insert_of_ne _ _ hk] at hd
            exact hstart k d hd
        · exact hstart k d hd
      · exact hstart k d hd

/-! ## Cycles -/

/-- A draft has a parent, and that is no interface. -/
def Extends (ds : Drafts) (key parent : String) : Prop :=
  ∃ d p, ds.find? key = some d ∧ d.parentKey = some parent ∧ ds.find? parent = some p ∧
    p.model.isOneOfInterface = false

end Drafts

/-! ## Folding one draft after the other -/

namespace Setup

variable (setup : Setup)

/-- Folding leaves the names and the own properties of a model alone. -/
@[simp] lemma name_fold (d : Draft) (p : Option Draft) :
    (setup.fold d p).model.name = d.model.name := rfl

@[simp] lemma vars_fold (d : Draft) (p : Option Draft) :
    (setup.fold d p).model.vars = d.model.vars := rfl

/-- The drafts with one more of them folded. -/
def foldStep (ds : Drafts) (key : String) : Drafts :=
  match ds.find? key with
  | none => ds
  | some d => ds.insert key (setup.fold d (ds.parent? d))

/-- Folding never fails, and leaves nothing in the session but the arguments of constructors. -/
lemma foldlM_foldAt (order : List String) (ds : Drafts) (s : Session) :
    ∃ s', order.foldlM setup.foldAt ds s = .ok (order.foldl setup.foldStep ds, s') := by
  induction order generalizing ds s with
  | nil => exact ⟨s, rfl⟩
  | cons key order ih =>
    have hstep : ∃ s', setup.foldAt ds key s = .ok (setup.foldStep ds key, s') := by
      rw [foldAt, foldStep]
      cases ds.find? key with
      | none => exact ⟨s, rfl⟩
      | some d => exact ⟨_, rfl⟩
    obtain ⟨s', hs'⟩ := hstep
    obtain ⟨s'', hs''⟩ := ih (setup.foldStep ds key) s'
    exact ⟨s'', by rw [List.foldlM_cons, Lowering.bind_eq_ok_iff]; exact ⟨_, _, hs', hs''⟩⟩

/-- What is left of the drafts when those under some keys have been folded, with what their parents
have become. -/
structure FoldedUpTo (ds : Drafts) (visited : List String) (folded : Drafts) : Prop where
  keys : folded.keys = ds.keys
  change : ∀ key d, ds.find? key = some d → key ∈ visited →
    folded.find? key = some (setup.fold d (folded.parent? d)) ∧
      ∀ parent, d.parentKey = some parent → parent ∈ ds.keys → parent ∈ visited
  other : ∀ key, key ∉ visited → folded.find? key = ds.find? key

variable {setup} {ds folded : Drafts} {visited : List String} {key : String}

/-- One more draft, whose parent was folded before. -/
lemma FoldedUpTo.foldStep (h : FoldedUpTo setup ds visited folded) (hkey : key ∉ visited)
    (hparent : ∀ parent, Drafts.Links ds key parent → parent ∈ ds.keys → parent ∈ visited) :
    FoldedUpTo setup ds (visited ++ [key]) (setup.foldStep folded key) := by
  have hself : folded.find? key = ds.find? key := h.other key hkey
  rw [Setup.foldStep, hself]
  cases hd : ds.find? key with
  | none =>
    refine ⟨h.keys, fun k d hd' hk => ?_, fun k hk => h.other k fun hmem => hk (by simp [hmem])⟩
    rcases List.mem_append.1 hk with hk | hk
    · obtain ⟨hfind, hparents⟩ := h.change k d hd' hk
      exact ⟨hfind, fun parent hp hmem => List.mem_append_left _ (hparents parent hp hmem)⟩
    · obtain rfl := List.mem_singleton.1 hk
      rw [hd] at hd'
      cases hd'
  | some d =>
    have hmem : key ∈ ds.keys := Table.mem_keys_of_find? hd
    have hparents : ∀ parent, d.parentKey = some parent → parent ∈ ds.keys → parent ∈ visited :=
      fun parent hp => hparent parent ⟨d, hd, hp⟩
    let now : Drafts := folded.insert key (setup.fold d (folded.parent? d))
    -- the draft that was folded now is the parent of none that was folded before
    have hnow {d' : Draft}
        (hall : ∀ parent, d'.parentKey = some parent → parent ∈ ds.keys → parent ∈ visited) :
        now.parent? d' = folded.parent? d' := by
      rw [Drafts.parent?, Drafts.parent?]
      cases hp : d'.parentKey with
      | none => rfl
      | some parent =>
        refine Table.find?_insert_of_ne _ _ fun heq => ?_
        exact hkey (heq ▸ hall parent hp (heq ▸ hmem))
    have hgrow {d' : Draft}
        (hall : ∀ parent, d'.parentKey = some parent → parent ∈ ds.keys → parent ∈ visited) :
        ∀ parent, d'.parentKey = some parent → parent ∈ ds.keys → parent ∈ visited ++ [key] :=
      fun parent hp hmem => List.mem_append_left _ (hall parent hp hmem)
    refine ⟨?_, fun k d' hd' hk => ?_, fun k hk => ?_⟩
    · rw [Table.keys_insert_of_mem _ _ (Table.mem_keys_of_find? (hself.trans hd)), h.keys]
    · rcases List.mem_append.1 hk with hk | hk
      · obtain ⟨hfind, hall⟩ := h.change k d' hd' hk
        have hne : k ≠ key := fun heq => hkey (heq ▸ hk)
        exact ⟨by rw [hnow hall, Table.find?_insert_of_ne _ _ hne, hfind], hgrow hall⟩
      · obtain rfl := List.mem_singleton.1 hk
        rw [hd, Option.some.injEq] at hd'
        subst hd'
        exact ⟨by rw [hnow hparents, Table.find?_insert_self], hgrow hparents⟩
    · rw [List.mem_append, List.mem_singleton, not_or] at hk
      exact (Table.find?_insert_of_ne _ _ hk.2).trans (h.other k hk.1)

variable (setup) in
/-- **Every draft is folded with what its parent has become**, if parents come first. -/
theorem foldl_foldStep_spec {order : List String} (hperm : order.Perm ds.keys)
    (hnodup : ds.keys.Nodup) (horder : order.Pairwise fun key later => ¬ Drafts.Links ds key later)
    (hself : ∀ key, ¬ Drafts.Links ds key key) :
    FoldedUpTo setup ds order (order.foldl setup.foldStep ds) := by
  have hfold : ∀ visited rest folded, visited ++ rest = order →
      FoldedUpTo setup ds visited folded →
      FoldedUpTo setup ds order (rest.foldl setup.foldStep folded) := by
    intro visited rest
    induction rest generalizing visited with
    | nil =>
      intro folded heq h
      rw [List.append_nil] at heq
      exact heq ▸ h
    | cons key rest ih =>
      intro folded heq h
      have hkey : key ∉ visited := fun hmem => by
        have horderNodup : order.Nodup := hperm.nodup_iff.2 hnodup
        rw [← heq] at horderNodup
        exact List.disjoint_of_nodup_append horderNodup hmem List.mem_cons_self
      refine ih (visited ++ [key]) _ (by simpa using heq)
        (h.foldStep hkey fun parent hlink hmem => ?_)
      -- the parent is not the draft itself, and not one of those to come
      have hparent : parent ∈ visited ++ key :: rest := heq ▸ hperm.mem_iff.2 hmem
      rcases List.mem_append.1 hparent with hparent | hparent
      · exact hparent
      · rw [← heq] at horder
        have hrest := (List.pairwise_cons.1 (List.pairwise_append.1 horder).2.1).1
        rcases List.mem_cons.1 hparent with rfl | hparent
        · exact absurd hlink (hself parent)
        · exact absurd hlink (hrest parent hparent)
  exact hfold [] order ds rfl ⟨rfl, fun _ _ _ h => (List.not_mem_nil h).elim, fun _ _ => rfl⟩

/-! ## Folding all drafts -/

variable (setup) in
lemma foldInheritance_eq (ds : Drafts) (s : Session) :
    (∃ f, ds.liftInterfaces.parentsFirst = .error f ∧ setup.foldInheritance ds s = .error f) ∨
      ∃ order s', ds.liftInterfaces.parentsFirst = .ok order ∧
        setup.foldInheritance ds s =
          .ok (order.foldl setup.foldStep ds.liftInterfaces, s') := by
  cases horder : ds.liftInterfaces.parentsFirst with
  | error f =>
    refine .inl ⟨f, rfl, ?_⟩
    rw [foldInheritance, horder]
    rfl
  | ok order =>
    obtain ⟨s', hs'⟩ := setup.foldlM_foldAt order ds.liftInterfaces s
    refine .inr ⟨order, s', rfl, ?_⟩
    rw [foldInheritance, horder]
    exact hs'

/-- What folding leaves: each draft, with the parent that it has when interfaces have ceased to be
parents, folded with what this parent has become. -/
structure Inherited (setup : Setup) (ds folded : Drafts) : Prop where
  keys : folded.keys = ds.keys
  fold : ∀ key d, ds.liftInterfaces.find? key = some d →
    folded.find? key = some (setup.fold d (folded.parent? d))
  line : ∀ key ∈ ds.keys, ∃ keys, Drafts.Lineage ds.liftInterfaces key keys

/-- **What folding leaves.** -/
theorem foldInheritance_spec {s s' : Session} (hnodup : ds.keys.Nodup)
    (h : setup.foldInheritance ds s = .ok (folded, s')) : Inherited setup ds folded := by
  have hkeys := (Drafts.liftInterfaces_spec hnodup).1
  rcases setup.foldInheritance_eq ds s with ⟨f, -, hfold⟩ | ⟨order, s'', horder, hfold⟩
  · rw [hfold] at h
    cases h
  · rw [hfold] at h
    obtain ⟨rfl, -⟩ := Prod.mk.inj (Except.ok.inj h)
    obtain ⟨hperm, hpairwise, hlines⟩ := Drafts.parentsFirst_spec horder
    have hself (key : String) : ¬ Drafts.Links ds.liftInterfaces key key := fun hlink =>
      Drafts.not_transGen_of_parentsFirst horder key (.single hlink)
    have hfolded := foldl_foldStep_spec setup hperm (hkeys ▸ hnodup) hpairwise hself
    refine ⟨hfolded.keys.trans hkeys, fun key d hd => ?_, hkeys ▸ hlines⟩
    exact (hfolded.change key d hd (hperm.mem_iff.2 (Table.mem_keys_of_find? hd))).1

end Setup

end ApiLowering
