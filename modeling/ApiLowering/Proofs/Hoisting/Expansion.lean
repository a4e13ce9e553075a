import ApiLowering.Proofs.Document.References
import ApiLowering.Proofs.Document.Schemas
import ApiLowering.Proofs.Schema.Sameness
import Mathlib.Logic.Relation

/-!
# Expanding references

References to some components may be replaced by these components, and so may the references in what
takes their place. This comes to an end at one schema at most, and only where no component needs
itself.

## Main definitions

* `Schema.Refers` — a schema refers to a component, at any depth.
* `Schema.Expands` — replacing references again and again comes to an end at some schema.
* `Schema.Needs`, `Schema.Grounded` — a component refers to another one; no chain of such references
  goes on forever.

## Main results

* `Schema.Expands.unique` — expanding ends at one schema only.
* `Schema.Expands.mono` — further components change nothing if nothing refers to them.
* `Schema.Expands.of_gist_eq` — schemas that are the same have expansions that are.
* `Schema.Expands.grounded` — where expanding comes to an end, all references are grounded.
-/

namespace ApiLowering

namespace Schema

/-! ## References to components -/

/-- A schema refers to a component, at any depth. -/
inductive Refers : SchemaRef → String → Prop
  | here {path key : String} : Reference.keyIn "schemas" path = .ok key → Refers (.ref path) key
  | inside {s : Schema} {r : SchemaRef} {key : String} : r ∈ s.children → Refers r key →
    Refers (.inline s) key

lemma refers_ref_iff {path key : String} :
    Refers (.ref path) key ↔ Reference.keyIn "schemas" path = .ok key :=
  ⟨fun | .here h => h, .here⟩

lemma refers_inline_iff {s : Schema} {key : String} :
    Refers (.inline s) key ↔ ∃ r ∈ s.children, Refers r key :=
  ⟨fun | .inside hr h => ⟨_, hr, h⟩, fun ⟨_, hr, h⟩ => .inside hr h⟩

lemma refers_toSchema {key : String} : Refers (.ref (Reference.toSchema key)) key :=
  .here (Reference.keyIn_toSchema key)

/-- Lawful schemas with one gist have the same gists in the same places. -/
lemma exists_child_of_gist_eq {s t : Schema} (hs : s.Lawful) (ht : t.Lawful)
    (h : gist (.inline s) = gist (.inline t)) {p : Place} {r : SchemaRef}
    (hr : s.child? p = some r) : ∃ q, t.child? p = some q ∧ gist r = gist q := by
  have hp := ((gist_inline_eq_iff hs ht).1 h).2 p
  rw [hr, Option.map_some, eq_comm, Option.map_eq_some_iff] at hp
  obtain ⟨q, hq, hgist⟩ := hp
  exact ⟨q, hq, hgist.symm⟩

/-- Schemas that are the same refer to the same components. -/
theorem refers_of_gist_eq {r q : SchemaRef} {key : String} (hr : Every Lawful r)
    (hq : Every Lawful q) (h : gist r = gist q) (hrefers : Refers r key) : Refers q key := by
  induction hrefers generalizing q with
  | @here path key hkey =>
    obtain rfl := eq_ref_of_gist_eq h.symm
    exact .here hkey
  | @inside s r key hmem _ ih =>
    obtain ⟨t, rfl⟩ := exists_inline_of_gist_eq h.symm
    obtain ⟨p, hp⟩ := exists_child?_of_mem_children hr.node.distinct hmem
    obtain ⟨q, hq', hgist⟩ := exists_child_of_gist_eq hr.node hq.node h hp
    have hchild := mem_children_of_child? hq'
    exact .inside hchild (ih (hr.children r hmem) (hq.children q hchild) hgist)

/-! ## Expansions -/

/-- Replacing the references to some components by these, again and again, comes to an end at some
schema: a reference to no such component stays, any other one becomes what its component becomes,
and a schema is expanded in all places below it. -/
inductive Expands (added : Table SchemaRef) : SchemaRef → SchemaRef → Prop
  | keep {path : String} :
    (∀ key, Reference.keyIn "schemas" path = .ok key → added.find? key = none) →
    Expands added (.ref path) (.ref path)
  | replace {path key : String} {r e : SchemaRef} : Reference.keyIn "schemas" path = .ok key →
    added.find? key = some r → Expands added r e → Expands added (.ref path) e
  | inline {s : Schema} {f : SchemaRef → SchemaRef} : (∀ r ∈ s.children, Expands added r (f r)) →
    Expands added (.inline s) (.inline (s.mapChildren f))

variable {added added' : Table SchemaRef} {r e e' : SchemaRef}

/-- Expanding ends at one schema only. -/
theorem Expands.unique (h : Expands added r e) : ∀ {e'}, Expands added r e' → e = e' := by
  induction h with
  | keep hpath =>
    intro e' h'
    cases h' with
    | keep => rfl
    | replace hkey hfind _ =>
      rw [hpath _ hkey] at hfind
      cases hfind
  | replace hkey hfind _ ih =>
    intro e' h'
    cases h' with
    | keep hpath =>
      rw [hpath _ hkey] at hfind
      cases hfind
    | replace hkey' hfind' h' =>
      rw [hkey, Except.ok.injEq] at hkey'
      subst hkey'
      rw [hfind, Option.some.injEq] at hfind'
      subst hfind'
      exact ih h'
  | inline _ ih =>
    intro e' h'
    cases h' with
    | inline h' => rw [mapChildren_congr fun r hr => ih r hr (h' r hr)]

/-- What refers to none of the components stays. -/
lemma expands_self (h : ∀ key, Refers r key → added.find? key = none) : Expands added r r := by
  induction r using ref_induction with
  | ref path => exact .keep fun key hkey => h key (.here hkey)
  | inline s ih =>
    have hinline : Expands added (.inline s) (.inline (s.mapChildren id)) :=
      .inline fun r hr => ih r hr fun key hkey => h key (.inside hr hkey)
    rwa [mapChildren_id] at hinline

/-- Further components change nothing if the expansion does not refer to them. -/
theorem Expands.mono (h : Expands added r e)
    (hsub : ∀ key r, added.find? key = some r → added'.find? key = some r)
    (he : ∀ key, Refers e key → added'.find? key = none) : Expands added' r e := by
  induction h with
  | keep hpath => exact .keep fun key hkey => he key (.here hkey)
  | replace hkey hfind _ ih => exact .replace hkey (hsub _ _ hfind) (ih he)
  | @inline s f _ ih =>
    refine .inline fun r hr => ih r hr fun key hkey => he key (.inside ?_ hkey)
    rw [children_mapChildren]
    exact List.mem_map_of_mem hr

/-- Schemas that are the same have expansions that are the same.

**Proof sketch.** Induction on the expansion. A child of the other schema stands in the same place
as a child of this one, and expands to the same; as expansions are unique it does not matter in
which place it was met. -/
theorem Expands.of_gist_eq (h : Expands added r e) : ∀ {q}, Every Lawful r → Every Lawful q →
    gist q = gist r → ∃ e', Expands added q e' ∧ gist e' = gist e := by
  induction h with
  | keep hpath =>
    intro q _ _ hgist
    obtain rfl := eq_ref_of_gist_eq hgist
    exact ⟨_, .keep hpath, rfl⟩
  | replace hkey hfind hr _ =>
    intro q _ _ hgist
    obtain rfl := eq_ref_of_gist_eq hgist
    exact ⟨_, .replace hkey hfind hr, rfl⟩
  | @inline s f _ ih =>
    intro q hs hq hgist
    obtain ⟨t, rfl⟩ := exists_inline_of_gist_eq hgist
    have hplace {p : Place} {c : SchemaRef} (hc : t.child? p = some c) :
        ∃ b, s.child? p = some b ∧ ∃ e', Expands added c e' ∧ gist e' = gist (f b) := by
      obtain ⟨b, hb, hcb⟩ := exists_child_of_gist_eq hq.node hs.node hgist hc
      have hmem := mem_children_of_child? hb
      exact ⟨b, hb, ih b hmem (hs.children b hmem)
        (hq.children c (mem_children_of_child? hc)) hcb⟩
    have hchild (c : SchemaRef) (hc : c ∈ t.children) : ∃ e', Expands added c e' := by
      obtain ⟨p, hp⟩ := exists_child?_of_mem_children hq.node.distinct hc
      obtain ⟨b, -, e', he', -⟩ := hplace hp
      exact ⟨e', he'⟩
    choose! g hg using hchild
    refine ⟨_, .inline hg, (gist_inline_eq_iff (hq.node.mapChildren g) (hs.node.mapChildren f)).2
      ⟨?_, fun p => ?_⟩⟩
    · rw [ownGist_mapChildren, ownGist_mapChildren]
      exact ((gist_inline_eq_iff hq.node hs.node).1 hgist).1
    · rw [child?_mapChildren, child?_mapChildren]
      cases hc : t.child? p with
      | none =>
        cases hb : s.child? p with
        | none => rfl
        | some b =>
          obtain ⟨c, hc', -⟩ := exists_child_of_gist_eq hs.node hq.node hgist.symm hb
          rw [hc] at hc'
          cases hc'
      | some c =>
        obtain ⟨b, hb, e', he', hgist'⟩ := hplace hc
        obtain rfl := he'.unique (hg c (mem_children_of_child? hc))
        rw [hb, Option.map_some, Option.map_some, Option.map_some, Option.map_some, hgist']

/-- What lawful schemas expand to is lawful. -/
lemma Expands.lawful (h : Expands added r e)
    (hadded : ∀ key r, added.find? key = some r → Every Lawful r) (hr : Every Lawful r) :
    Every Lawful e := by
  induction h with
  | keep => exact hr
  | replace _ hfind _ ih => exact ih (hadded _ _ hfind)
  | @inline s f _ ih =>
    refine .inline (hr.node.mapChildren f) fun q hq => ?_
    rw [children_mapChildren] at hq
    obtain ⟨c, hc, rfl⟩ := List.mem_map.1 hq
    exact ih c hc (hr.children c hc)

/-! ## Chains of components -/

/-- A component refers to another one. -/
def Needs (added : Table SchemaRef) (needed key : String) : Prop :=
  ∃ r, added.find? key = some r ∧ Refers r needed

/-- No chain of references from a component goes on forever. -/
abbrev Grounded (added : Table SchemaRef) (key : String) : Prop := Acc (Needs added) key

/-- Where expanding comes to an end, all references are grounded. -/
theorem Expands.grounded (h : Expands added r e) :
    ∀ {key}, Refers r key → Grounded added key := by
  induction h with
  | keep hpath =>
    intro key hkey
    have hnone := hpath key (refers_ref_iff.1 hkey)
    refine Acc.intro key fun needed ⟨r, hr, _⟩ => ?_
    rw [hnone] at hr
    cases hr
  | replace hkey hfind _ ih =>
    intro key' hkey'
    rw [refers_ref_iff, hkey, Except.ok.injEq] at hkey'
    subst hkey'
    refine Acc.intro _ fun needed ⟨r, hr, hneeded⟩ => ?_
    rw [hfind, Option.some.injEq] at hr
    subst hr
    exact ih hneeded
  | inline _ ih =>
    intro key hkey
    obtain ⟨r, hr, hkey⟩ := refers_inline_iff.1 hkey
    exact ih r hr hkey

/-- Further components leave no chain shorter. -/
lemma Grounded.of_mono {key : String} (h : Grounded added' key)
    (hsub : ∀ key r, added.find? key = some r → added'.find? key = some r) :
    Grounded added key := by
  induction h with
  | intro key _ ih =>
    exact Acc.intro key fun needed ⟨r, hr, hneeded⟩ => ih needed ⟨r, hsub key r hr, hneeded⟩

/-- No component on a circle of references is grounded. -/
lemma not_grounded_of_transGen {key : String} (h : Relation.TransGen (Needs added) key key) :
    ¬ Grounded added key := by
  intro hkey
  have hacc : Acc (Relation.TransGen (Needs added)) key := Acc.transGen hkey
  induction hacc with
  | intro key _ ih => exact ih key h h hkey

end Schema

end ApiLowering
