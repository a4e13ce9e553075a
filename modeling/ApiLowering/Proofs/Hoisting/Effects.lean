import ApiLowering.Proofs.Hoisting.Expansion
import ApiLowering.Proofs.Hoisting.Nodes

/-!
# What hoisting does to a pool

Hoisting a schema adds components to the pool, and leaves those alone that were there before. As
long as every name that is given out makes a component of its own, expanding what is left of a
schema gives back the schema, and every new component is reached from there. Where a component is
put in the place of another one, that one was added below it and is reached from it; so the new
component is reached from itself, and expanding what is left never comes to an end.

## Main definitions

* `Hoisting.Sound` — a pool that hoisting can meet.
* `Hoisting.NothingLost` — every name that was given out made a component of its own.
* `Hoisting.Restores` — expanding what is left of a schema gives back the schema.
* `Hoisting.Effect` — what hoisting does to a pool.

## Main results

* `Hoisting.Trace.effect` — every trace has that effect.
-/

namespace ApiLowering

namespace Hoisting

open Schema Relation

/-! ## Pools -/

/-- The components of a pool, as they stand in a document. -/
def Pool.components (p : Pool) : Table SchemaRef := p.added.map .inline

/-- The names in use are those that were declared and those of the added components, and these are
different; the added components are lawful. -/
structure Sound (declared : List String) (p : Pool) : Prop where
  covers : declared ⊆ p.used
  used : ∀ name ∈ p.used, name ∈ declared ∨ name ∈ p.added.keys
  added : ∀ name ∈ p.added.keys, name ∈ p.used ∧ name ∉ declared
  nodup : p.added.keys.Nodup
  lawful : ∀ s ∈ p.added.values, Every Lawful (.inline s)

/-- Every name that was given out between two pools made a component of its own. -/
def NothingLost (p q : Pool) : Prop :=
  q.used.length + p.added.size = p.used.length + q.added.size

instance (p q : Pool) : Decidable (NothingLost p q) := inferInstanceAs (Decidable (_ = _))

/-- The components of a pool are still there in a later one. -/
def Keeps (p q : Pool) : Prop := ∀ name ∈ p.used, q.added.find? name = p.added.find? name

section Pools

variable {declared : List String} {p q : Pool} {name : String}

lemma find?_components (p : Pool) (name : String) :
    p.components.find? name = (p.added.find? name).map .inline :=
  Table.find?_map _ _ _

lemma Sound.find?_declared (hp : Sound declared p) (hname : name ∈ declared) :
    p.components.find? name = none := by
  rw [find?_components, Option.map_eq_none_iff, ← Option.not_isSome_iff_eq_none]
  intro hsome
  exact (hp.added name (Table.contains_iff.1 hsome)).2 hname

lemma Keeps.find?_components (h : Keeps p q) (hp : Sound declared p) {r : SchemaRef}
    (hr : p.components.find? name = some r) : q.components.find? name = some r := by
  have hmem : name ∈ p.added.keys := by
    have hkeys := Table.mem_keys_of_find? hr
    rwa [Pool.components, Table.keys_map] at hkeys
  rw [Hoisting.find?_components, h name (hp.added name hmem).1, ← Hoisting.find?_components, hr]

/-- What is found in a pool is one of its components. -/
lemma Sound.lawful_of_find? (hp : Sound declared p) {r : SchemaRef}
    (hr : p.components.find? name = some r) : Every Lawful r := by
  rw [find?_components] at hr
  obtain ⟨s, hs, rfl⟩ := Option.map_eq_some_iff.1 hr
  exact hp.lawful s (Table.mem_values_of_find? hs)

end Pools

/-! ## Schemas in a pool -/

/-- A schema refers to declared components only. -/
def Declares (declared : List String) (r : SchemaRef) : Prop :=
  ∀ name, Refers r name → name ∈ declared

/-- Expanding what is left of a schema gives back the schema, up to the order of keys. -/
structure RestoresTo (declared : List String) (p : Pool) (before after whole : SchemaRef) :
    Prop where
  expands : Expands p.components after whole
  gist_eq : gist whole = gist before
  declares : Declares declared whole

/-- The same, whatever the expansion is. -/
def Restores (declared : List String) (p : Pool) (before after : SchemaRef) : Prop :=
  ∃ whole, RestoresTo declared p before after whole

/-- A component is reached from what is left of a schema. -/
def Reaches (p : Pool) (after : SchemaRef) (name : String) : Prop :=
  ∃ first, Refers after first ∧ ReflTransGen (Needs p.components) name first

/-- Some chain of references goes on forever. -/
def Endless (p : Pool) (after : SchemaRef) : Prop :=
  ∃ name, Refers after name ∧ ¬ Grounded p.components name

section Later

variable {declared : List String} {p q : Pool} (hkeeps : Keeps p q) (hp : Sound declared p)

include hkeeps hp

lemma Keeps.needs {needed name : String} (h : Needs p.components needed name) :
    Needs q.components needed name := by
  obtain ⟨r, hr, hneeded⟩ := h
  exact ⟨r, hkeeps.find?_components hp hr, hneeded⟩

lemma Restores.later (hq : Sound declared q) {before after : SchemaRef}
    (h : Restores declared p before after) : Restores declared q before after := by
  obtain ⟨whole, hwhole⟩ := h
  refine ⟨whole, hwhole.expands.mono (fun _ _ => hkeeps.find?_components hp) fun name hname => ?_,
    hwhole.gist_eq, hwhole.declares⟩
  exact hq.find?_declared (hwhole.declares name hname)

lemma Reaches.later {after : SchemaRef} {name : String} (h : Reaches p after name) :
    Reaches q after name := by
  obtain ⟨first, hfirst, hchain⟩ := h
  exact ⟨first, hfirst, hchain.lift id fun _ _ => hkeeps.needs hp⟩

lemma Endless.later {after : SchemaRef} (h : Endless p after) : Endless q after := by
  obtain ⟨name, hname, hendless⟩ := h
  exact ⟨name, hname, fun hgrounded => hendless
    (hgrounded.of_mono fun _ _ => hkeeps.find?_components hp)⟩

end Later

/-! ## Effects -/

/-- Every schema is restored, and every new component is reached from what is left of some
schema. -/
structure Whole (declared : List String) (p : Pool) (xs : List (SchemaRef × SchemaRef))
    (q : Pool) : Prop where
  nothingLost : NothingLost p q
  restores : ∀ x ∈ xs, Restores declared q x.1 x.2
  reaches : ∀ name ∈ q.used, name ∉ p.used → ∃ x ∈ xs, Reaches q x.2 name

/-- Something was lost, and what is left of some schema has no expansion. -/
structure Broken (p : Pool) (xs : List (SchemaRef × SchemaRef)) (q : Pool) : Prop where
  lost : ¬ NothingLost p q
  endless : ∃ x ∈ xs, Endless q x.2

/-- What hoisting does to a pool. -/
structure Effect (declared : List String) (p : Pool) (xs : List (SchemaRef × SchemaRef))
    (q : Pool) : Prop where
  sound : Sound declared q
  grows : p.used ⊆ q.used
  keeps : Keeps p q
  lawful : ∀ x ∈ xs, Every Lawful x.2
  /-- There are no more components than names that were given out. -/
  balance : p.used.length + q.added.size ≤ q.used.length + p.added.size
  outcome : Whole declared p xs q ∨ Broken p xs q

section Effects

variable {declared : List String} {p q : Pool} {xs ys : List (SchemaRef × SchemaRef)}

lemma effect_nil (hp : Sound declared p) : Effect declared p [] p where
  sound := hp
  grows := List.Subset.refl _
  keeps _ _ := rfl
  lawful _ := nofun
  balance := Nat.le_refl _
  outcome := .inl ⟨rfl, fun _ => nofun, fun _ h h' => absurd h h'⟩

lemma effect_stay (hp : Sound declared p) {r : SchemaRef} (hlawful : Every Lawful r)
    (hr : Declares declared r) : Effect declared p [(r, r)] p where
  sound := hp
  grows := List.Subset.refl _
  keeps _ _ := rfl
  lawful := List.forall_mem_singleton.2 hlawful
  balance := Nat.le_refl _
  outcome := by
    have hself : Expands p.components r r :=
      expands_self fun name hname => hp.find?_declared (hr name hname)
    exact .inl ⟨rfl, List.forall_mem_singleton.2 ⟨r, hself, rfl, hr⟩, fun _ h h' => absurd h h'⟩

/-- One trace after the other. -/
lemma Effect.append {o : Pool} (hxs : Effect declared p xs q)
    (hys : Effect declared q ys o) : Effect declared p (xs ++ ys) o where
  sound := hys.sound
  grows := List.Subset.trans hxs.grows hys.grows
  keeps name hname := (hys.keeps name (hxs.grows hname)).trans (hxs.keeps name hname)
  lawful := List.forall_mem_append.2 ⟨hxs.lawful, hys.lawful⟩
  balance := by
    have := hxs.balance
    have := hys.balance
    omega
  outcome := by
    have hbalance := hxs.balance
    have hbalance' := hys.balance
    rcases hxs.outcome with hx | hx
    · rcases hys.outcome with hy | hy
      · refine .inl ⟨?_, List.forall_mem_append.2 ⟨fun x hmem => ?_, hy.restores⟩, ?_⟩
        · have := hx.nothingLost
          have := hy.nothingLost
          simp only [NothingLost] at *
          omega
        · exact (hx.restores x hmem).later hys.keeps hxs.sound hys.sound
        · intro name hname hnew
          by_cases hold : name ∈ q.used
          · obtain ⟨x, hmem, hreaches⟩ := hx.reaches name hold hnew
            exact ⟨x, List.mem_append_left _ hmem, hreaches.later hys.keeps hxs.sound⟩
          · obtain ⟨y, hmem, hreaches⟩ := hy.reaches name hname hold
            exact ⟨y, List.mem_append_right _ hmem, hreaches⟩
      · obtain ⟨y, hmem, hendless⟩ := hy.endless
        refine .inr ⟨?_, y, List.mem_append_right _ hmem, hendless⟩
        have := hx.nothingLost
        have := hy.lost
        simp only [NothingLost] at *
        omega
    · obtain ⟨x, hmem, hendless⟩ := hx.endless
      refine .inr ⟨?_, x, List.mem_append_left _ hmem, hendless.later hys.keeps hxs.sound⟩
      have := hx.lost
      simp only [NothingLost] at *
      omega

/-! ## What is below a schema -/

section Below

variable {s t : Schema} (hnode : s.SameNode t)

include hnode

/-- A schema is restored with its children. -/
lemma restores_inline (hs : s.Lawful)
    (h : ∀ x ∈ (schemas s.fields).zip (schemas t.fields), Restores declared q x.1 x.2) :
    Restores declared q (.inline s) (.inline t) := by
  have hexpands (r : SchemaRef) (hr : r ∈ t.children) : ∃ e, Expands q.components r e := by
    obtain ⟨before, hmem⟩ := hnode.exists_mem_zip hr
    obtain ⟨whole, hwhole⟩ := h _ hmem
    exact ⟨whole, hwhole.expands⟩
  choose! f hf using hexpands
  have hpair (x : SchemaRef × SchemaRef) (hx : x ∈ (schemas s.fields).zip (schemas t.fields)) :
      gist (f x.2) = gist x.1 ∧ Declares declared (f x.2) := by
    obtain ⟨whole, hwhole⟩ := h x hx
    rw [(hf x.2 (SameNode.mem_children_of_mem_zip hx).2).unique hwhole.expands]
    exact ⟨hwhole.gist_eq, hwhole.declares⟩
  refine ⟨_, .inline hf, hnode.gist_eq hs fun x hx => (hpair x hx).1, fun name hname => ?_⟩
  obtain ⟨r, hr, hrefers⟩ := refers_inline_iff.1 hname
  rw [children_mapChildren] at hr
  obtain ⟨after, hafter, rfl⟩ := List.mem_map.1 hr
  obtain ⟨before, hmem⟩ := hnode.exists_mem_zip hafter
  exact (hpair _ hmem).2 name hrefers

/-- What hoisting does below a schema. -/
lemma Effect.walk (hs : s.Lawful)
    (h : Effect declared p ((schemas s.fields).zip (schemas t.fields)) q) :
    Effect declared p [(.inline s, .inline t)] q where
  sound := h.sound
  grows := h.grows
  keeps := h.keeps
  lawful := by
    refine List.forall_mem_singleton.2 (.inline (hnode.lawful hs) fun r hr => ?_)
    obtain ⟨before, hmem⟩ := hnode.exists_mem_zip hr
    exact h.lawful _ hmem
  balance := h.balance
  outcome := by
    refine h.outcome.imp (fun hwhole => ?_) fun hbroken => ?_
    · refine ⟨hwhole.nothingLost,
        List.forall_mem_singleton.2 (restores_inline hnode hs hwhole.restores),
        fun name hname hnew => ?_⟩
      obtain ⟨x, hx, first, hfirst, hchain⟩ := hwhole.reaches name hname hnew
      have hchild := (SameNode.mem_children_of_mem_zip hx).2
      exact ⟨_, List.mem_singleton_self _, first, .inside hchild hfirst, hchain⟩
    · obtain ⟨x, hx, first, hfirst, hendless⟩ := hbroken.endless
      have hchild := (SameNode.mem_children_of_mem_zip hx).2
      exact ⟨hbroken.lost, _, List.mem_singleton_self _, first, .inside hchild hfirst, hendless⟩

end Below

/-! ## Components -/

/-- The pool with a component under a name. -/
def Pool.withComponent (q : Pool) (name : String) (t : Schema) : Pool :=
  { used := name :: q.used, added := q.added.insert name t }

section Add

variable {s t : Schema} {name : String}

lemma find?_withComponent_self :
    (q.withComponent name t).components.find? name = some (.inline t) := by
  rw [find?_components, Pool.withComponent, Table.find?_insert_self]
  rfl

lemma find?_withComponent_of_ne {other : String} (h : other ≠ name) :
    (q.withComponent name t).components.find? other = q.components.find? other := by
  rw [find?_components, find?_components, Pool.withComponent, Table.find?_insert_of_ne _ _ h]

/-- What the new component refers to is needed by it. -/
lemma needs_withComponent {first : String} (h : Refers (.inline t) first) :
    Needs (q.withComponent name t).components first name :=
  ⟨_, find?_withComponent_self, h⟩

lemma needs_withComponent_iff_of_ne {needed other : String} (h : other ≠ name) :
    Needs (q.withComponent name t).components needed other ↔ Needs q.components needed other := by
  rw [Needs, Needs, find?_withComponent_of_ne h]

lemma Sound.withComponent (hq : Sound declared q) (hname : name ∉ declared)
    (ht : Every Lawful (.inline t)) : Sound declared (q.withComponent name t) where
  covers := List.Subset.trans hq.covers (List.subset_cons_self _ _)
  used other hother := by
    rcases List.mem_cons.1 hother with rfl | hother
    · exact .inr (Table.mem_keys_insert.2 (.inl rfl))
    · exact (hq.used other hother).imp_right fun h => Table.mem_keys_insert.2 (.inr h)
  added other hother := by
    rcases Table.mem_keys_insert.1 hother with rfl | hother
    · exact ⟨List.mem_cons_self, hname⟩
    · exact (hq.added other hother).imp_left (List.mem_cons_of_mem _)
  nodup := Table.nodup_keys_insert hq.nodup
  lawful u hu := by
    rcases Table.mem_values_insert hu with rfl | hu
    · exact ht
    · exact hq.lawful u hu

/-- A component that leads to the one whose place the new one takes leads to the new one.

**Proof sketch.** The chain does so as far as its first visit of the name. -/
lemma reaches_name_withComponent {first : String}
    (h : ReflTransGen (Needs q.components) name first) :
    ReflTransGen (Needs (q.withComponent name t).components) name first := by
  induction h with
  | refl => exact .refl
  | @tail needed other _ hneeds ih =>
    by_cases hother : other = name
    · rw [hother]
    · exact ih.tail ((needs_withComponent_iff_of_ne hother).2 hneeds)

/-- If the new component is grounded, so was all that it refers to.

**Proof sketch.** No chain from it comes back to its name, so all of them were there before. -/
lemma grounded_of_withComponent (hname : Grounded (q.withComponent name t).components name)
    {first : String} (hfirst : Refers (.inline t) first) : Grounded q.components first := by
  have hbelow {key : String} (hkey : Grounded (q.withComponent name t).components key) :
      TransGen (Needs (q.withComponent name t).components) key name →
        Grounded q.components key := by
    induction hkey with
    | intro key _ ih =>
      intro hchain
      have hne : key ≠ name := by
        rintro rfl
        exact not_grounded_of_transGen hchain hname
      refine Acc.intro key fun needed hneeds => ?_
      have hneeds' := (needs_withComponent_iff_of_ne (t := t) hne).2 hneeds
      exact ih needed hneeds' (hchain.head hneeds')
  exact hbelow (hname.inv (needs_withComponent hfirst)) (.single (needs_withComponent hfirst))

/-- A component under a new name leaves all others alone. -/
lemma keeps_withComponent (hname : name ∉ q.used) : Keeps q (q.withComponent name t) :=
  fun _ hother => Table.find?_insert_of_ne _ _ (ne_of_mem_of_not_mem hother hname)

variable (h : Effect declared p [(.inline s, .inline t)] q)

include h

/-- Where the name has been given out below, the new component takes the place of another one. -/
lemma Effect.broken_add (hused : name ∈ q.used) (hname : name ∉ p.used) (hp : Sound declared p) :
    Broken p [(.inline s, .ref (Reference.toSchema name))] (q.withComponent name t) := by
  have hkeys : name ∈ q.added.keys :=
    (h.sound.used name hused).resolve_left fun hmem => hname (hp.covers hmem)
  refine ⟨?_, _, List.mem_singleton_self _, name, refers_toSchema, ?_⟩
  · have hsize : (q.withComponent name t).added.size = q.added.size :=
      Table.size_insert_of_mem hkeys
    have hlength : (q.withComponent name t).used.length = q.used.length + 1 := rfl
    have := h.balance
    rw [NothingLost, hsize, hlength]
    omega
  · rcases h.outcome with hwhole | hbroken
    · obtain ⟨x, hx, first, hfirst, hchain⟩ := hwhole.reaches name hused hname
      obtain rfl := List.mem_singleton.1 hx
      exact not_grounded_of_transGen
        (.tail' (reaches_name_withComponent hchain) (needs_withComponent hfirst))
    · obtain ⟨x, hx, first, hfirst, hendless⟩ := hbroken.endless
      obtain rfl := List.mem_singleton.1 hx
      exact fun hgrounded => hendless (grounded_of_withComponent hgrounded hfirst)

/-- Where the name is new, what has become of the schema is reached through the new component. -/
lemma Effect.outcome_add (hnew : name ∉ q.used) (hdeclared : name ∉ declared)
    (ht : Every Lawful (.inline t)) :
    Whole declared p [(.inline s, .ref (Reference.toSchema name))] (q.withComponent name t) ∨
      Broken p [(.inline s, .ref (Reference.toSchema name))] (q.withComponent name t) := by
  have hkeeps : Keeps q (q.withComponent name t) := keeps_withComponent hnew
  have hsize : (q.withComponent name t).added.size = q.added.size + 1 :=
    Table.size_insert_of_not_mem fun hmem => hnew (h.sound.added name hmem).1
  have hlength : (q.withComponent name t).used.length = q.used.length + 1 := rfl
  have hbalance := h.balance
  refine h.outcome.imp (fun hwhole => ?_) fun hbroken => ?_
  · refine ⟨?_, List.forall_mem_singleton.2 ?_, fun other hother hnot => ?_⟩
    · have := hwhole.nothingLost
      simp only [NothingLost] at *
      omega
    · have hsound := h.sound.withComponent hdeclared ht
      obtain ⟨whole, hexpands, hgist, hdeclares⟩ :=
        (hwhole.restores _ (List.mem_singleton_self _)).later hkeeps h.sound hsound
      exact ⟨whole, .replace (Reference.keyIn_toSchema name) find?_withComponent_self hexpands,
        hgist, hdeclares⟩
    · refine ⟨_, List.mem_singleton_self _, name, refers_toSchema, ?_⟩
      rcases List.mem_cons.1 hother with rfl | hother
      · exact .refl
      · obtain ⟨x, hx, hreaches⟩ := hwhole.reaches other hother hnot
        obtain rfl := List.mem_singleton.1 hx
        obtain ⟨first, hfirst, hchain⟩ := hreaches.later hkeeps h.sound
        exact hchain.tail (needs_withComponent hfirst)
  · obtain ⟨x, hx, first, hfirst, hendless⟩ := hbroken.endless
    obtain rfl := List.mem_singleton.1 hx
    refine ⟨?_, _, List.mem_singleton_self _, name, refers_toSchema, fun hgrounded => hendless ?_⟩
    · have := hbroken.lost
      simp only [NothingLost] at *
      omega
    · exact Grounded.of_mono (hgrounded.inv (needs_withComponent hfirst))
        fun _ _ => hkeeps.find?_components h.sound

/-- What hoisting a schema to a component does. -/
lemma Effect.add (hname : name ∉ p.used) (hp : Sound declared p) :
    Effect declared p [(.inline s, .ref (Reference.toSchema name))] (q.withComponent name t) := by
  have hdeclared : name ∉ declared := fun hmem => hname (hp.covers hmem)
  have ht : Every Lawful (.inline t) := h.lawful _ (List.mem_singleton_self _)
  refine ⟨h.sound.withComponent hdeclared ht, fun other hother => ?_, fun other hother => ?_,
    List.forall_mem_singleton.2 (.ref _), ?_, ?_⟩
  · exact List.mem_cons_of_mem _ (h.grows hother)
  · rw [← h.keeps other hother]
    exact Table.find?_insert_of_ne _ _ (ne_of_mem_of_not_mem hother hname)
  · have hsize : (q.withComponent name t).added.size ≤ q.added.size + 1 := by
      by_cases hmem : name ∈ q.added.keys
      · exact (Table.size_insert_of_mem hmem).le.trans (Nat.le_succ _)
      · exact (Table.size_insert_of_not_mem hmem).le
    have hlength : (q.withComponent name t).used.length = q.used.length + 1 := rfl
    have := h.balance
    omega
  · by_cases hused : name ∈ q.used
    · exact .inr (h.broken_add hused hname hp)
    · exact h.outcome_add hused hdeclared ht

end Add

/-- What sharing a component does. -/
lemma Effect.share {s t u : Schema} {name : String}
    (h : Effect declared p [(.inline s, .inline t)] q) (hmem : (name, u) ∈ q.added.entries)
    (hsame : u.same t = true) :
    Effect declared p [(.inline s, .ref (Reference.toSchema name))] q := by
  have hfind : q.components.find? name = some (.inline u) := by
    rw [find?_components, Table.find?_eq_some_of_mem h.sound.nodup hmem]
    rfl
  have hu : Every Lawful (.inline u) := h.sound.lawful_of_find? hfind
  have ht : Every Lawful (.inline t) := h.lawful _ (List.mem_singleton_self _)
  have hgist : gist (.inline u) = gist (.inline t) := sameRef_iff.1 hsame
  have hneeds {first : String} (hfirst : Refers (.inline t) first) :
      Needs q.components first name :=
    ⟨_, hfind, refers_of_gist_eq ht hu hgist.symm hfirst⟩
  refine ⟨h.sound, h.grows, h.keeps, List.forall_mem_singleton.2 (.ref _), h.balance,
    h.outcome.imp (fun hwhole => ?_) fun hbroken => ?_⟩
  · refine ⟨hwhole.nothingLost, List.forall_mem_singleton.2 ?_, fun other hother hnot => ?_⟩
    · obtain ⟨whole, hexpands, hwholegist, hdeclares⟩ :=
        hwhole.restores _ (List.mem_singleton_self _)
      obtain ⟨whole', hexpands', hgist'⟩ := hexpands.of_gist_eq ht hu hgist
      have hlawful := hexpands.lawful (fun _ _ => h.sound.lawful_of_find?) ht
      have hlawful' := hexpands'.lawful (fun _ _ => h.sound.lawful_of_find?) hu
      exact ⟨whole', .replace (Reference.keyIn_toSchema name) hfind hexpands',
        hgist'.trans hwholegist,
        fun key hkey => hdeclares key (refers_of_gist_eq hlawful' hlawful hgist' hkey)⟩
    · obtain ⟨x, hx, first, hfirst, hchain⟩ := hwhole.reaches other hother hnot
      obtain rfl := List.mem_singleton.1 hx
      exact ⟨_, List.mem_singleton_self _, name, refers_toSchema, hchain.tail (hneeds hfirst)⟩
  · obtain ⟨x, hx, first, hfirst, hendless⟩ := hbroken.endless
    obtain rfl := List.mem_singleton.1 hx
    exact ⟨hbroken.lost, _, List.mem_singleton_self _, name, refers_toSchema,
      fun hgrounded => hendless (hgrounded.inv (hneeds hfirst))⟩

end Effects

/-! ## Traces -/

/-- **Every trace has that effect** if the schemas before it are lawful and refer to declared
components only.

**Proof sketch.** Induction on the trace. A component takes the place of another one only if its
name was given out below it, since it was free when it was chosen. -/
theorem Trace.effect {declared : List String} {p q : Pool} {xs : List (SchemaRef × SchemaRef)}
    (h : Trace p xs q) (hp : Sound declared p)
    (hxs : ∀ x ∈ xs, Every Lawful x.1 ∧ Declares declared x.1) : Effect declared p xs q := by
  have hbelow {s t : Schema} (hs : Every Lawful (.inline s) ∧ Declares declared (.inline s)) :
      ∀ x ∈ (schemas s.fields).zip (schemas t.fields),
        Every Lawful x.1 ∧ Declares declared x.1 := by
    intro x hx
    have hchild := (SameNode.mem_children_of_mem_zip hx).1
    exact ⟨hs.1.children _ hchild, fun name hname => hs.2 name (.inside hchild hname)⟩
  induction h with
  | nil => exact effect_nil hp
  | append _ _ ihx ihy =>
    obtain ⟨hx, hy⟩ := List.forall_mem_append.1 hxs
    have hfirst := ihx hp hx
    exact hfirst.append (ihy hfirst.sound hy)
  | stay =>
    obtain ⟨hlawful, hdeclares⟩ := List.forall_mem_singleton.1 hxs
    exact effect_stay hp hlawful hdeclares
  | walk hnode _ ih =>
    have hs := List.forall_mem_singleton.1 hxs
    exact (ih hp (hbelow hs)).walk hnode hs.1.node
  | add hname hnode _ ih =>
    have hs := List.forall_mem_singleton.1 hxs
    exact ((ih hp (hbelow hs)).walk hnode hs.1.node).add hname hp
  | share hnode _ hmem hsame ih =>
    have hs := List.forall_mem_singleton.1 hxs
    exact ((ih hp (hbelow hs)).walk hnode hs.1.node).share hmem hsame

end Hoisting

end ApiLowering
