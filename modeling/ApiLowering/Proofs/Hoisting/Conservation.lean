import ApiLowering.Proofs.Hoisting.Rest

/-!
# The hoisted document

The hoisted document extends the document: the declared components keep their places, the new ones
follow under names of their own, and every reference that was put in the place of a schema names a
component. Hoisting it again finds nothing to do.

## Main definitions

* `Hoisting.Hoisted` — a schema before and after, where schemas became references to components.
* `Schema.Within` — a schema is another one or stands below it.
* `Document.Still` — a document in whose parts nothing is left to hoist.

## Main results

* `Hoisting.Trace.hoisted`, `Hoisting.Trace.exists_source` — every trace leaves such schemas, and
  such components.
* `Document.atRest_hoisted` — hoisting changes nothing at a hoisted document.
* `Document.hoisted_conservative` — the hoisted document extends the document, and is at rest.
-/

namespace ApiLowering

/-- A schema is another one, or stands below it. -/
inductive Schema.Within (r : SchemaRef) : SchemaRef → Prop
  | self : Within r r
  | child {s : Schema} {q : SchemaRef} : q ∈ s.children → Within r q → Within r (.inline s)

namespace Hoisting

open Schema

variable {α β : Type} {rules : Rules} {declared : List String}

/-! ## What hoisting leaves -/

/-- A schema before and after: it stays, something below it was hoisted, or it became a reference to
one of some components. -/
inductive Hoisted (names : List String) : SchemaRef → SchemaRef → Prop
  | stay (r : SchemaRef) : Hoisted names r r
  | walk {s t : Schema} : s.SameNode t →
    (∀ x ∈ (schemas s.fields).zip (schemas t.fields), Hoisted names x.1 x.2) →
    Hoisted names (.inline s) (.inline t)
  | refer {s : Schema} {name : String} : name ∈ names →
    Hoisted names (.inline s) (.ref (Reference.toSchema name))

lemma Hoisted.mono {names names' : List String} (hsub : names ⊆ names') {r q : SchemaRef}
    (h : Hoisted names r q) : Hoisted names' r q := by
  induction h with
  | stay r => exact .stay r
  | walk hnode _ ih => exact .walk hnode ih
  | refer hname => exact .refer (hsub hname)

lemma Trace.keys_subset {p q : Pool} {xs : List (SchemaRef × SchemaRef)} (h : Trace p xs q) :
    p.added.keys ⊆ q.added.keys := by
  induction h with
  | nil => exact List.Subset.refl _
  | append _ _ ih ih' => exact List.Subset.trans ih ih'
  | stay => exact List.Subset.refl _
  | walk _ _ ih => exact ih
  | add _ _ _ ih => exact fun key hkey => Table.mem_keys_insert.2 (.inr (ih hkey))
  | share _ _ _ _ ih => exact ih

/-- Every reference in the place of a schema names a component of the pool. -/
theorem Trace.hoisted {p q : Pool} {xs : List (SchemaRef × SchemaRef)} (h : Trace p xs q) :
    ∀ x ∈ xs, Hoisted q.added.keys x.1 x.2 := by
  induction h with
  | nil => exact List.forall_mem_nil _
  | append _ hys ih ih' =>
    exact List.forall_mem_append.2 ⟨fun x hx => (ih x hx).mono hys.keys_subset, ih'⟩
  | stay => exact List.forall_mem_singleton.2 (.stay _)
  | walk hnode _ ih => exact List.forall_mem_singleton.2 (.walk hnode ih)
  | add => exact List.forall_mem_singleton.2 (.refer (Table.mem_keys_insert.2 (.inl rfl)))
  | share _ _ hmem =>
    exact List.forall_mem_singleton.2 (.refer (List.mem_map_of_mem hmem))

/-- Every new component is what is left of some schema. -/
theorem Trace.exists_source {p q : Pool} {xs : List (SchemaRef × SchemaRef)} (h : Trace p xs q) :
    ∀ t ∈ q.added.values, t ∈ p.added.values ∨
      ∃ x ∈ xs, ∃ s, Within (.inline s) x.1 ∧ Hoisted q.added.keys (.inline s) (.inline t) := by
  have hbelow {s t : Schema} {r : SchemaRef} {keys : List String} {u : Schema}
      (h : ∃ x ∈ (schemas s.fields).zip (schemas t.fields), ∃ v, Within (.inline v) x.1 ∧
        Hoisted keys (.inline v) (.inline u)) :
      ∃ x ∈ [(Referable.inline s, r)], ∃ v, Within (.inline v) x.1 ∧
        Hoisted keys (.inline v) (.inline u) := by
    obtain ⟨x, hx, v, hv, hu⟩ := h
    exact ⟨_, List.mem_singleton_self _, v,
      .child (SameNode.mem_children_of_mem_zip hx).1 hv, hu⟩
  induction h with
  | nil => exact fun t ht => .inl ht
  | @append p q r xs ys _ hys ih ih' =>
    intro t ht
    rcases ih' t ht with ht | ⟨x, hx, hs⟩
    · refine (ih t ht).imp_right fun ⟨x, hx, s, hs, hleft⟩ => ?_
      exact ⟨x, List.mem_append_left _ hx, s, hs, hleft.mono hys.keys_subset⟩
    · exact .inr ⟨x, List.mem_append_right _ hx, hs⟩
  | stay => exact fun t ht => .inl ht
  | walk _ _ ih => exact fun t ht => (ih t ht).imp_right hbelow
  | @add p q s t name _ hnode htrace ih =>
    have hsub : q.added.keys ⊆ (q.added.insert name t).keys :=
      fun key hkey => Table.mem_keys_insert.2 (.inr hkey)
    intro u hu
    rcases Table.mem_values_insert hu with rfl | hu
    · exact .inr ⟨_, List.mem_singleton_self _, s, .self,
        .walk hnode fun x hx => (htrace.hoisted x hx).mono hsub⟩
    · refine (ih u hu).imp_right fun ⟨x, hx, v, hv, hleft⟩ => hbelow ⟨x, hx, v, hv, ?_⟩
      exact hleft.mono hsub
  | share _ _ _ _ ih => exact fun t ht => (ih t ht).imp_right hbelow

/-! ## Documents -/

lemma AtRest.along {l : Lens β α} {walk : β → α → Step α} {y : β}
    (h : AtRest (walk y) (l.get y)) : AtRest (along l walk) y := by
  intro q
  have hstep : Hoisting.along l walk y q =
      (l.set y (walk y (l.get y) q).1, (walk y (l.get y) q).2) := rfl
  rw [hstep, h q, l.set_get]

lemma AtRest.some {walk : α → Step α} {x : α} (h : AtRest walk x) :
    AtRest (forSome walk) (some x) :=
  fun q => congrArg (fun z : α × Pool => (Option.some z.1, z.2)) (h q)

lemma AtRest.append {walk : α → Step α} {xs ys : List α} (hxs : AtRest (List.mapM walk) xs)
    (hys : ∀ y ∈ ys, AtRest walk y) : AtRest (List.mapM walk) (xs ++ ys) := by
  have hrest : AtRest (List.mapM walk) ys := by
    induction ys with
    | nil => exact fun _ => rfl
    | cons y ys ih =>
      exact (hys y (by simp)).cons (ih fun z hz => hys z (List.mem_cons_of_mem _ hz))
  intro q
  have hstep : List.mapM walk (xs ++ ys) q =
      ((List.mapM walk xs q).1 ++ (List.mapM walk ys (List.mapM walk xs q).2).1,
        (List.mapM walk ys (List.mapM walk xs q).2).2) := by
    rw [List.mapM_append]
    rfl
  rw [hstep, hxs q, hrest q]

lemma atRest_forValues_iff {walk : String → α → Step α} {t : Table α} :
    AtRest (forValues walk) t ↔ AtRest (List.mapM (atValue walk)) t.entries := by
  have hstep (q : Pool) : forValues walk t q = (⟨(List.mapM (atValue walk) t.entries q).1⟩,
      (List.mapM (atValue walk) t.entries q).2) := rfl
  refine forall_congr' fun q => ?_
  rw [hstep, Prod.ext_iff, Prod.ext_iff, Table.mk.injEq]

namespace Orderly

variable {p : Pool} (hp : Orderly rules declared p)

include hp

lemma entries_insertAll {t : Table SchemaRef} (hkeys : t.keys = declared) :
    (t.insertAll p.components.entries).entries = t.entries ++ p.components.entries := by
  have hadded : p.components.entries.map Prod.fst = p.added.keys := Table.keys_map _ _
  refine Table.entries_insertAll ?_ fun key hkey => ?_
  · rw [hadded]
    exact hp.nodup
  · rw [hkeys]
    exact hp.fresh key (hadded ▸ hkey)

/-- The components of an orderly pool may join the declared ones. -/
lemma atRest_insertAll {t : Table SchemaRef} (hkeys : t.keys = declared)
    (ht : AtRest (walkSchemas rules) t) :
    AtRest (walkSchemas rules) (t.insertAll p.components.entries) := by
  rw [walkSchemas, atRest_forValues_iff] at ht ⊢
  rw [hp.entries_insertAll hkeys]
  refine ht.append fun e he q => ?_
  obtain ⟨⟨key, s⟩, hs, rfl⟩ := List.mem_map.1 he
  have hstep : atValue (fun key r => walkPart rules key r) (key, .inline s) q =
      ((key, .inline (walkModel rules key s q).1), (walkModel rules key s q).2) := by
    rw [atValue, walkPart]
    rfl
  rw [hstep, hp.atRest _ hs q]

end Orderly

end Hoisting

namespace Document

open Hoisting Schema

variable (d : Document) (rules : Rules)

lemma walkComponents_eq : walkComponents rules = along Components.lens fun _ =>
    both (walkSchemas rules) (both pure (both pure (both (walkBodies rules) pure))) := rfl

lemma walkDocument_eq : walkDocument rules = along Document.lens fun _ =>
    both (forSome (walkComponents rules)) (both (forValues (walkPath rules)) pure) := by
  funext d
  rw [walkDocument, along]
  cases hcomponents : d.components <;> simp [lens, both, forSome, hcomponents]

/-- A document in whose parts nothing is left to hoist. -/
structure Still : Prop where
  schemas : AtRest (walkSchemas rules) d.parts.schemas
  bodies : AtRest (walkBodies rules) d.parts.requestBodies
  paths : AtRest (forValues (walkPath rules)) d.paths

variable {d rules} in
/-- Hoisting changes nothing at such a document. -/
lemma Still.atRest (h : d.Still rules) : AtRest (walkDocument rules) d := by
  rw [walkDocument_eq]
  refine .along (.both ?_ (h.paths.both fun _ => rfl))
  obtain ⟨hschemas, hbodies, -⟩ := h
  rw [parts] at hschemas hbodies
  cases hcomponents : d.components with
  | none => exact fun _ => rfl
  | some c =>
    rw [hcomponents] at hschemas hbodies
    rw [walkComponents_eq]
    have hpure {α : Type} (x : α) : AtRest pure x := fun _ => rfl
    exact .some (.along (hschemas.both ((hpure _).both ((hpure _).both (hbodies.both (hpure _))))))

/-- What hoisting leaves of a document is such a document, and the pool is orderly. -/
lemma still_hoisting : (d.hoisting rules).1.Still rules ∧
    Orderly rules d.parts.schemas.keys (d.hoisting rules).2 := by
  have hp : Orderly rules d.parts.schemas.keys d.declaredPool := orderly_declared _
  generalize hdeclared : d.parts.schemas.keys = declared at hp ⊢
  rw [hoisting]
  generalize d.declaredPool = p at hp ⊢
  obtain ⟨openapi, info, servers, paths, webhooks, components⟩ := d
  cases components with
  | none =>
    obtain ⟨hpaths, hp⟩ := settles_walkPaths paths p hp
    exact ⟨⟨fun _ => rfl, fun _ => rfl, hpaths⟩, hp⟩
  | some c =>
    obtain ⟨hschemas, hp⟩ := settles_walkSchemas c.schemas p hp
    obtain ⟨hbodies, hp⟩ := settles_walkBodies c.requestBodies _ hp
    obtain ⟨hpaths, hp⟩ := settles_walkPaths paths _ hp
    exact ⟨⟨hschemas, hbodies, hpaths⟩, hp⟩

/-- Hoisting keeps the keys of the declared components. -/
lemma keys_hoisting : (d.hoisting rules).1.parts.schemas.keys = d.parts.schemas.keys := by
  have hshape := (tracks_walkDocument rules d d.declaredPool).1
  have hkeys (d : Document) :
      (mapSchemas (fun _ => .ref "") d).parts.schemas.keys = d.parts.schemas.keys := by
    obtain ⟨openapi, info, servers, paths, webhooks, components⟩ := d
    cases components with
    | none => rfl
    | some c => exact Table.keys_map _ _
  rw [← hkeys, ← hkeys d]
  exact congrArg (fun d : Document => d.parts.schemas.keys) hshape.symm

lemma schemas_withSchemas (added : Table SchemaRef) :
    (d.withSchemas added).parts.schemas = d.parts.schemas.insertAll added.entries := by
  rw [withSchemas]
  split
  · rename_i hempty
    have hentries : added.entries = [] := List.isEmpty_iff.1 hempty
    rw [hentries]
    rfl
  · rfl

/-- In a hoisted document nothing is left to hoist. -/
lemma still_hoisted : (d.hoisted rules).Still rules := by
  obtain ⟨hstill, hpool⟩ := still_hoisting d rules
  have hschemas := hpool.atRest_insertAll (keys_hoisting d rules) hstill.schemas
  rw [hoisted_eq]
  refine ⟨?_, ?_, ?_⟩
  · rwa [schemas_withSchemas]
  · rw [withSchemas]
    split
    · exact hstill.bodies
    · exact hstill.bodies
  · rw [withSchemas]
    split
    · exact hstill.paths
    · exact hstill.paths

/-- **Hoisting changes nothing at a hoisted document.** -/
theorem atRest_hoisted : AtRest (walkDocument rules) (d.hoisted rules) :=
  (still_hoisted d rules).atRest

/-- The component schemas of the hoisted document: the new ones follow the declared ones. -/
lemma keys_hoisted : (d.hoisted rules).parts.schemas.keys =
    d.parts.schemas.keys ++ (d.hoisting rules).2.added.keys := by
  have hpool := (still_hoisting d rules).2
  rw [hoisted_eq, schemas_withSchemas, Table.keys, hpool.entries_insertAll (keys_hoisting d rules),
    List.map_append]
  exact congrArg₂ (· ++ ·) (keys_hoisting d rules) (Table.keys_map _ _)

/-- **The hoisted document extends the document, and is at rest.** It is what hoisting leaves, with
new components. The declared components keep their places, and the new ones follow under new names.
What hoisting leaves, of the document and as a component, differs from what was there in references
to components only. If equal schemas are shared then no two new components are equal. And hoisting
the document again adds nothing and changes nothing. -/
theorem hoisted_conservative :
    d.hoisted rules = (d.hoisting rules).1.withSchemas ((d.hoisting rules).2.added.map .inline) ∧
      ((d.hoisted rules).parts.schemas.keys =
          d.parts.schemas.keys ++ (d.hoisting rules).2.added.keys ∧
        (d.hoisting rules).2.added.keys.Nodup ∧
        ∀ key ∈ (d.hoisting rules).2.added.keys, key ∉ d.parts.schemas.keys) ∧
      (Alike (Hoisted (d.hoisted rules).parts.schemas.keys) d (d.hoisting rules).1 ∧
        ∀ t ∈ (d.hoisting rules).2.added.values, ∃ r ∈ schemas d, ∃ s, Within (.inline s) r ∧
          Hoisted (d.hoisted rules).parts.schemas.keys (.inline s) (.inline t)) ∧
      (rules.reuse = true →
        (d.hoisting rules).2.added.values.Pairwise fun s t => s.same t = false) ∧
      (d.hoisted rules).hoisting rules = (d.hoisted rules, (d.hoisted rules).declaredPool) ∧
      (d.hoisted rules).hoisted rules = d.hoisted rules := by
  obtain ⟨hshape, htrace⟩ := tracks_walkDocument rules d d.declaredPool
  have hpool := (still_hoisting d rules).2
  have hsub : (d.hoisting rules).2.added.keys ⊆ (d.hoisted rules).parts.schemas.keys := by
    rw [keys_hoisted d rules]
    exact List.subset_append_right _ _
  have hagain : (d.hoisted rules).hoisting rules =
      (d.hoisted rules, (d.hoisted rules).declaredPool) := atRest_hoisted d rules _
  refine ⟨hoisted_eq d rules, ⟨keys_hoisted d rules, hpool.nodup, hpool.fresh⟩,
    ⟨⟨hshape, List.forall₂_iff_zip.2 ⟨hshape.length_eq, fun hx => ?_⟩⟩, fun t ht => ?_⟩,
    hpool.different, hagain, ?_⟩
  · exact (htrace.hoisted _ hx).mono hsub
  · obtain ⟨x, hx, s, hs, hleft⟩ := (htrace.exists_source t ht).resolve_left List.not_mem_nil
    exact ⟨x.1, (List.of_mem_zip hx).1, s, hs, hleft.mono hsub⟩
  · rw [hoisted_eq, hagain]
    rfl

end Document

end ApiLowering
