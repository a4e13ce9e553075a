import ApiLowering.Proofs.Lists
import ApiLowering.Proofs.Schema.ReadBack

/-!
# The steps to the canonical form

What each step does to the parts of a schema, in the cases in which it does anything. No step brings
in a schema of a new kind: what its keywords hold was there before, or was read from what its parts
are as values.

## Main definitions

* `Keywords.From` — some keywords have the values of one or two other ones.
* `Schema.Hereditary` — a property of schemas that no step breaks.

## Main results

* `Schema.mergeParts_of_merged`, `Schema.mergeParts_eq_self` — several inline parts become one, or
  stay as they are.
* `Schema.lift_of_inlines`, `Schema.lift_eq_self` — what a sole inline part says is lifted.
* `Schema.Hereditary.every_canonicalRef` — the canonical form brings in no schema of another kind.
-/

namespace ApiLowering

/-! ## Keywords -/

namespace Keywords

/-- The values of any form that some keywords have. -/
def freeForm (k : Keywords) : List Json :=
  [k.defaultValue, k.exclusiveMinimum, k.exclusiveMaximum, k.constValue, k.sample, k.samples,
    k.externalDocs].filterMap id

lemma mem_freeForm {k : Keywords} {v : Json} : v ∈ k.freeForm ↔
    v ∈ k.defaultValue ∨ v ∈ k.exclusiveMinimum ∨ v ∈ k.exclusiveMaximum ∨ v ∈ k.constValue ∨
      v ∈ k.sample ∨ v ∈ k.samples ∨ v ∈ k.externalDocs := by
  simp only [freeForm, List.mem_filterMap, id, exists_eq_right, List.mem_cons, List.not_mem_nil,
    or_false, Option.mem_def, @eq_comm _ (some v)]

/-- Some keywords have the values of one or two other ones: free-form values of both, all other
values that are more than a text or a number of the first. -/
structure From (k outer inner : Keywords) : Prop where
  extensions : k.extensions = outer.extensions
  discriminator : k.discriminator = outer.discriminator
  enumValues : k.enumValues = outer.enumValues
  freeForm : ∀ v ∈ k.freeForm, v ∈ outer.freeForm ∨ v ∈ inner.freeForm

lemma From.refl (k : Keywords) : k.From k k := ⟨rfl, rfl, rfl, fun _ => .inl⟩

end Keywords

namespace Schema

/-! ## References and inline parts -/

lemma mem_inlines {rs : List SchemaRef} {p : Schema} : p ∈ inlines rs ↔ .inline p ∈ rs := by
  rw [inlines, List.mem_filterMap]
  constructor
  · rintro ⟨r, hr, hp⟩
    cases r <;> simp_all [Referable.inline?]
  · intro h
    exact ⟨_, h, rfl⟩

lemma mem_references {rs : List SchemaRef} {r : SchemaRef} :
    r ∈ references rs ↔ r ∈ rs ∧ ∃ path, r = .ref path := by
  rw [references, List.mem_filter]
  cases r <;> simp [Referable.isRef, Referable.path?]

@[simp] lemma inlines_append (rs qs : List SchemaRef) :
    inlines (rs ++ qs) = inlines rs ++ inlines qs := List.filterMap_append

@[simp] lemma references_append (rs qs : List SchemaRef) :
    references (rs ++ qs) = references rs ++ references qs := List.filter_append ..

@[simp] lemma inlines_references (rs : List SchemaRef) : inlines (references rs) = [] := by
  rw [List.eq_nil_iff_forall_not_mem]
  intro p hp
  obtain ⟨-, path, hpath⟩ := mem_references.1 (mem_inlines.1 hp)
  cases hpath

@[simp] lemma references_references (rs : List SchemaRef) :
    references (references rs) = references rs := by
  simp [references]

@[simp] lemma inlines_map_inline (ps : List Schema) : inlines (ps.map .inline) = ps := by
  induction ps with
  | nil => rfl
  | cons p ps ih =>
    rw [List.map_cons, inlines, List.filterMap_cons]
    exact congrArg (p :: ·) ih

@[simp] lemma references_map_inline (ps : List Schema) : references (ps.map .inline) = [] := by
  rw [references, List.filter_eq_nil_iff]
  intro r hr
  obtain ⟨p, -, rfl⟩ := List.mem_map.1 hr
  simp [Referable.isRef, Referable.path?]

/-- The parts with the references first. -/
def inOrder (rs : List SchemaRef) : List SchemaRef := references rs ++ (inlines rs).map .inline

/-- Nothing is lost when references go first. -/
lemma inOrder_perm (rs : List SchemaRef) : (inOrder rs).Perm rs := by
  induction rs with
  | nil => exact .nil
  | cons r rs ih =>
    cases r with
    | ref path => exact ih.cons (.ref path)
    | inline p => exact List.perm_middle.trans (ih.cons (.inline p))

/-! ## Several parts -/

lemma orderParts_allOf (s : Schema) :
    s.orderParts.allOf =
      references s.allOf ++ ((inlines s.allOf).map s.withoutRepeated).map .inline := by
  rw [orderParts, List.map_map]
  rfl

lemma inlines_orderParts (s : Schema) :
    inlines s.orderParts.allOf = (inlines s.allOf).map s.withoutRepeated := by
  rw [orderParts_allOf, inlines_append, inlines_references, inlines_map_inline, List.nil_append]

lemma references_orderParts (s : Schema) :
    references s.orderParts.allOf = references s.allOf := by
  rw [orderParts_allOf, references_append, references_references, references_map_inline,
    List.append_nil]

/-- Several inline parts become one if they can be merged. -/
lemma mergeParts_of_merged {s : Schema} {merged : SchemaRef}
    (hlength : 1 < (inlines s.allOf).length) (h : mergeAll (inlines s.allOf) = some merged) :
    s.mergeParts = { s with allOf := references s.allOf ++ [merged] } := by
  rw [mergeParts]
  match hps : inlines s.allOf, hlength with
  | [], hlength => simp at hlength
  | [a], hlength => simp at hlength
  | a :: b :: ps, _ =>
    rw [hps] at h
    simp only [h]

/-- A single inline part stays, and so do several ones that cannot be merged. -/
lemma mergeParts_eq_self {s : Schema}
    (h : 1 < (inlines s.allOf).length → mergeAll (inlines s.allOf) = none) : s.mergeParts = s := by
  rw [mergeParts]
  split
  · rename_i a b ps hps
    rw [hps] at h
    rw [h (by simp)]
  · rfl

/-! ## A sole inline part -/

lemma lift_of_inlines {s inner : Schema} (h : inlines s.allOf = [inner]) :
    s.lift = { s.lifted inner with allOf := replaceInline (s.remainder inner) s.allOf } := by
  rw [lift, h]

lemma lift_allOf {s inner : Schema} (h : inlines s.allOf = [inner]) :
    s.lift.allOf = replaceInline (s.remainder inner) s.allOf := by
  rw [lift_of_inlines h]

lemma lift_properties (s : Schema) : s.lift.properties = s.properties := by
  rw [lift]
  split <;> rfl

lemma lift_extensions (s : Schema) :
    s.lift.keywords.extensions = s.keywords.extensions := by
  rw [lift]
  split <;> rfl

lemma lift_required {s inner : Schema} (h : inlines s.allOf = [inner]) :
    s.lift.keywords.required = takenList s.keywords.required inner.keywords.required := by
  rw [lift_of_inlines h]
  rfl

lemma lift_eq_self {s : Schema} (h : ∀ inner, inlines s.allOf ≠ [inner]) : s.lift = s := by
  rw [lift]
  split
  · rename_i inner hinner
    exact absurd hinner (h inner)
  · rfl

lemma mem_or_mem_of_mem_orElse {α : Type} {outer inner : Option α} {x : α}
    (h : x ∈ (outer <|> inner)) : x ∈ outer ∨ x ∈ inner := by
  cases outer <;> simp_all

lemma mem_of_mem_leftOver {α : Type} {outer inner : Option α} {x : α}
    (h : x ∈ leftOver outer inner) : x ∈ inner := by
  cases outer <;> simp_all [leftOver]

lemma leftOverList_subset {α : Type} {outer inner : List α} :
    leftOverList outer inner ⊆ inner := by
  cases outer <;> simp [leftOverList]

lemma mem_replaceInline {part : Schema} {rs : List SchemaRef} {r : SchemaRef}
    (h : r ∈ replaceInline part rs) : r ∈ rs ∨ r = .inline part := by
  rw [replaceInline] at h
  split at h
  · exact .inl (mem_references.1 h).1
  · obtain ⟨q, hq, rfl⟩ := List.mem_map.1 h
    cases q with
    | ref path => exact .inl hq
    | inline p => exact .inr rfl

/-! ## Free-form values -/

lemma freeForm_withoutRepeated_subset {s p : Schema} :
    (s.withoutRepeated p).keywords.freeForm ⊆ p.keywords.freeForm := by
  intro v h
  rw [Keywords.mem_freeForm] at h ⊢
  refine h.imp_left fun hdefault => ?_
  rw [Option.mem_def, withoutRepeated] at hdefault
  exact (Option.ite_none_left_eq_some.1 hdefault).2

lemma freeForm_remainder_subset {s p : Schema} :
    (s.remainder p).keywords.freeForm ⊆ p.keywords.freeForm := by
  intro v
  simp only [Keywords.mem_freeForm, remainder]
  exact .imp mem_of_mem_leftOver <| .imp_right <| .imp_right <| .imp_right <|
    .imp mem_of_mem_leftOver <| .imp mem_of_mem_leftOver mem_of_mem_leftOver

lemma from_lifted (s p : Schema) : (s.lifted p).keywords.From s.keywords p.keywords := by
  refine ⟨rfl, rfl, rfl, fun v h => ?_⟩
  simp only [Keywords.mem_freeForm, lifted] at h ⊢
  rcases h with h | h | h | h | h | h | h
  · exact (mem_or_mem_of_mem_orElse h).imp .inl .inl
  · exact .inl (.inr (.inl h))
  · exact .inl (.inr (.inr (.inl h)))
  · exact .inl (.inr (.inr (.inr (.inl h))))
  · exact (mem_or_mem_of_mem_orElse h).imp (fun h => by simp [h]) (fun h => by simp [h])
  · exact (mem_or_mem_of_mem_orElse h).imp (fun h => by simp [h]) (fun h => by simp [h])
  · exact (mem_or_mem_of_mem_orElse h).imp (fun h => by simp [h]) (fun h => by simp [h])

/-! ## The whole -/

lemma alias?_eq_some_iff {s : Schema} {path : String} :
    s.alias? = some path ↔ s.allOf = [.ref path] ∧
      { s with allOf := [], keywords.types := none : Schema }.isEmpty = true := by
  rw [alias?]
  match s.allOf with
  | [] | [.inline _] | _ :: _ :: _ => simp
  | [.ref p] => simp [and_comm]

/-- What is left of a schema that absorbs an alternative: that alternative, or the schema with it
among its parts. -/
def unabsorbed : SchemaRef ⊕ Schema → SchemaRef
  | .inl r => r
  | .inr s => .inline s

/-- An alternative becomes a part, or takes the place of the whole, at most with a description and
with null as a value. -/
lemma absorb_cases (s : Schema) (r : SchemaRef) :
    s.absorb r = .inr { s with allOf := s.allOf ++ [r] } ∨ s.absorb r = .inl r ∨
      ∃ p, r = .inline p ∧ s.absorb r = .inl (.inline { p with
        keywords.nullable := some true
        keywords.description := p.keywords.description <|> s.keywords.description }) := by
  rw [absorb.eq_def]
  generalize isEmpty _ = empty
  cases empty with
  | false => exact .inl rfl
  | true =>
    cases hnull : s.keywords.nullable != some true with
    | true => exact .inr (.inl rfl)
    | false =>
      cases r with
      | ref path => exact .inl rfl
      | inline p => exact .inr (.inr ⟨p, rfl, rfl⟩)

/-- Alternatives of the second kind are absorbed by what is left after those of the first kind. -/
lemma absorbAlternatives_cases (s : Schema) :
    s.absorbAlternatives = unabsorbed s.absorbOneOf ∨
      ∃ t, s.absorbOneOf = .inr t ∧ s.absorbAlternatives = unabsorbed t.absorbAnyOf := by
  rw [absorbAlternatives]
  cases s.absorbOneOf with
  | inl r => exact .inl rfl
  | inr t =>
    refine .inr ⟨t, rfl, ?_⟩
    cases h : t.absorbAnyOf <;> simp only [h] <;> rfl

/-! ## Children -/

/-- With fewer parts and alternatives there are fewer children. -/
lemma children_subset {s t : Schema} (hproperties : t.properties = s.properties)
    (hitems : t.items = s.items) (hadditional : ∀ a ∈ t.additional, a ∈ s.additional)
    (hnegated : ∀ r ∈ t.negated, r ∈ s.negated) (hallOf : t.allOf ⊆ s.allOf)
    (honeOf : t.oneOf ⊆ s.oneOf) (hanyOf : t.anyOf ⊆ s.anyOf) : t.children ⊆ s.children := by
  intro r hr
  rw [mem_children, hproperties, hitems] at hr
  rw [mem_children]
  exact hr.imp_right <| .imp_right <| .imp (hadditional _) <| .imp (hnegated _) <|
    .imp (hallOf ·) <| .imp (honeOf ·) (hanyOf ·)

lemma children_distinctParts_subset (s : Schema) : s.distinctParts.children ⊆ s.children := by
  have hsubset (rs : List SchemaRef) : distinctWith sameRef rs ⊆ rs :=
    (distinctWith_sublist sameRef rs).subset
  exact children_subset rfl rfl (fun _ => id) (fun _ => id) (hsubset _) (hsubset _) (hsubset _)

lemma children_dropAlternatives_subset (sw : Canonical.Switches) (s : Schema) :
    (s.dropAlternatives sw).children ⊆ s.children := by
  rw [dropAlternatives]
  split
  · exact children_subset rfl rfl (fun _ => id) (fun _ => id) (List.Subset.refl _)
      (List.nil_subset _) (List.nil_subset _)
  · exact List.Subset.refl _

lemma children_dropNulls_subset (sw : Canonical.Switches) (s : Schema) :
    (s.dropNulls sw).children ⊆ s.children := by
  rw [dropNulls]
  split
  · exact children_subset rfl rfl (fun _ => id) (fun _ => id) (List.Subset.refl _)
      (List.filter_subset_self _) (List.filter_subset_self _)
  · exact List.Subset.refl _

lemma children_remainder_subset (s p : Schema) : (s.remainder p).children ⊆ p.children :=
  children_subset rfl rfl (fun _ => mem_of_mem_leftOver) (fun _ => mem_of_mem_leftOver)
    (List.Subset.refl _) leftOverList_subset leftOverList_subset

lemma children_without_oneOf_subset (s : Schema) :
    ({ s with oneOf := [] } : Schema).children ⊆ s.children :=
  children_subset rfl rfl (fun _ => id) (fun _ => id) (List.Subset.refl _) (List.nil_subset _)
    (List.Subset.refl _)

lemma children_without_anyOf_subset (s : Schema) :
    ({ s with anyOf := [] } : Schema).children ⊆ s.children :=
  children_subset rfl rfl (fun _ => id) (fun _ => id) (List.Subset.refl _) (List.Subset.refl _)
    (List.nil_subset _)

/-- With other parts there are no other children. -/
lemma mem_children_with_allOf {s : Schema} {rs : List SchemaRef} {r : SchemaRef}
    (hr : r ∈ ({ s with allOf := rs } : Schema).children) : r ∈ s.children ∨ r ∈ rs := by
  rw [mem_children] at hr ⊢
  by_cases hmem : r ∈ rs
  · exact .inr hmem
  · simp only [hmem, false_or] at hr
    exact .inl (by tauto)

/-- A whole has its children and some of its part. -/
lemma mem_children_lift {s p : Schema} (hp : inlines s.allOf = [p]) {r : SchemaRef}
    (hr : r ∈ s.lift.children) :
    r ∈ s.children ∨ r ∈ p.children ∨ r = .inline (s.remainder p) := by
  rw [lift_of_inlines hp] at hr
  simp only [mem_children, lifted, takenList] at hr ⊢
  rcases hr with hr | hr | hr | hr | hr | hr | hr
  · exact .inl (.inl hr)
  · exact .inl (.inr (.inl hr))
  · rcases mem_or_mem_of_mem_orElse hr with hr | hr
    · exact .inl (.inr (.inr (.inl hr)))
    · exact .inr (.inl (.inr (.inr (.inl hr))))
  · rcases mem_or_mem_of_mem_orElse hr with hr | hr
    · exact .inl (.inr (.inr (.inr (.inl hr))))
    · exact .inr (.inl (.inr (.inr (.inr (.inl hr)))))
  · rcases mem_replaceInline hr with hr | rfl
    · exact .inl (by simp [hr])
    · exact .inr (.inr rfl)
  all_goals
    split_ifs at hr
    · exact .inr (.inl (by simp [hr]))
    · exact .inl (by simp [hr])

/-! ## Schemas of one kind -/

/-- A property of schemas, apart from those below them, that no step breaks. -/
structure Hereditary (P : Schema → Prop) : Prop where
  /-- It lies in the names of the properties and in the keywords. -/
  node {s p t : Schema} : P s → P p → t.properties.keys = s.properties.keys →
    t.keywords.From s.keywords p.keywords → P t
  object : P (.ofType .object)
  merged {ps : List Schema} {r : SchemaRef} : (∀ p ∈ ps, Every P (.inline p)) →
    mergeAll ps = some r → Every P r

section Every

variable {P : Schema → Prop}

/-- Where all children are known to be of some kind, only the node matters. -/
lemma Every.of_children {s t : Schema} (h : Every P (.inline s))
    (hnode : P t) (hchildren : ∀ r ∈ t.children, r ∈ s.children ∨ Every P r) :
    Every P (.inline t) :=
  .inline hnode fun r hr => (hchildren r hr).elim (h.children r) id

end Every

namespace Hereditary

variable {P : Schema → Prop} (hP : Hereditary P) {s : Schema}

include hP

/-- Only the free-form values matter, and they come from one schema. -/
lemma of_same {t : Schema} (hs : P s) (hkeys : t.properties.keys = s.properties.keys)
    (hextensions : t.keywords.extensions = s.keywords.extensions)
    (hdiscriminator : t.keywords.discriminator = s.keywords.discriminator)
    (henum : t.keywords.enumValues = s.keywords.enumValues)
    (hfreeForm : t.keywords.freeForm ⊆ s.keywords.freeForm) : P t :=
  hP.node hs hs hkeys ⟨hextensions, hdiscriminator, henum, fun _ hv => .inl (hfreeForm hv)⟩

section Steps

variable (hs : Every P (.inline s))

include hs

lemma every_distinctParts : Every P (.inline s.distinctParts) :=
  hs.of_children (hP.of_same hs.node rfl rfl rfl rfl (List.Subset.refl _)) fun _ hr =>
    .inl (children_distinctParts_subset s hr)

lemma every_dropAlternatives (sw : Canonical.Switches) :
    Every P (.inline (s.dropAlternatives sw)) := by
  refine hs.of_children ?_ fun r hr => .inl (children_dropAlternatives_subset sw s hr)
  rw [dropAlternatives]
  split
  · exact hP.of_same hs.node rfl rfl rfl rfl (List.Subset.refl _)
  · exact hs.node

lemma every_dropNulls (sw : Canonical.Switches) : Every P (.inline (s.dropNulls sw)) := by
  refine hs.of_children ?_ fun r hr => .inl (children_dropNulls_subset sw s hr)
  rw [dropNulls]
  split
  · exact hP.of_same hs.node rfl rfl rfl rfl (List.Subset.refl _)
  · exact hs.node

/-- Every part may be replaced by one of the same kind. -/
lemma every_with_allOf {rs : List SchemaRef} (hrs : ∀ r ∈ rs, Every P r) :
    Every P (.inline { s with allOf := rs }) :=
  hs.of_children (hP.of_same hs.node rfl rfl rfl rfl (List.Subset.refl _)) fun r hr =>
    (mem_children_with_allOf hr).imp_right (hrs r)

lemma every_orderParts : Every P (.inline s.orderParts) := by
  refine hP.every_with_allOf hs fun r hr => ?_
  have hpart {q : SchemaRef} (hq : q ∈ s.allOf) := hs.children q (mem_children_of_mem_allOf hq)
  rcases List.mem_append.1 hr with hr | hr
  · exact hpart (mem_references.1 hr).1
  · obtain ⟨p, hp, rfl⟩ := List.mem_map.1 hr
    have h := hpart (mem_inlines.1 hp)
    exact .inline (hP.of_same h.node rfl rfl rfl rfl freeForm_withoutRepeated_subset) h.children

lemma every_mergeParts : Every P (.inline s.mergeParts) := by
  by_cases h : 1 < (inlines s.allOf).length → mergeAll (inlines s.allOf) = none
  · rwa [mergeParts_eq_self h]
  · obtain ⟨hlength, hmerge⟩ := Classical.not_imp.1 h
    obtain ⟨merged, hmerged⟩ := Option.ne_none_iff_exists'.1 hmerge
    have hpart {q : SchemaRef} (hq : q ∈ s.allOf) := hs.children q (mem_children_of_mem_allOf hq)
    rw [mergeParts_of_merged hlength hmerged]
    refine hP.every_with_allOf hs fun r hr => ?_
    rcases List.mem_append.1 hr with hr | hr
    · exact hpart (mem_references.1 hr).1
    · exact List.mem_singleton.1 hr ▸
        hP.merged (fun p hp => hpart (mem_inlines.1 hp)) hmerged

lemma every_unifyParts : Every P (.inline s.unifyParts) := by
  rw [unifyParts]
  split
  · exact hP.every_mergeParts (hP.every_orderParts hs)
  · exact hs

lemma every_lift : Every P (.inline s.lift) := by
  by_cases h : ∃ p, inlines s.allOf = [p]
  · obtain ⟨p, hp⟩ := h
    have hpart : Every P (.inline p) :=
      hs.children _ (mem_children_of_mem_allOf (mem_inlines.1 (hp ▸ List.mem_singleton_self p)))
    have hremainder : Every P (.inline (s.remainder p)) :=
      hpart.of_children (hP.of_same hpart.node rfl rfl rfl rfl freeForm_remainder_subset)
        fun r hr => .inl (children_remainder_subset s p hr)
    have hnode : P s.lift := by
      rw [lift_of_inlines hp]
      exact hP.node hs.node hpart.node rfl (from_lifted s p)
    refine hs.of_children hnode fun r hr => ?_
    rcases mem_children_lift hp hr with hr | hr | rfl
    · exact .inl hr
    · exact .inr (hpart.children r hr)
    · exact .inr hremainder
  · rwa [lift_eq_self fun p hp => h ⟨p, hp⟩]

lemma every_withType : Every P (.inline s.withType) := by
  rw [withType]
  split
  · refine .inline hP.object fun r hr => ?_
    simp [mem_children, ofType, Table.values] at hr
  · exact hs

end Steps

lemma every_absorb {r : SchemaRef} (hs : Every P (.inline s)) (hr : Every P r) :
    Every P (unabsorbed (s.absorb r)) := by
  rcases absorb_cases s r with h | h | ⟨p, rfl, h⟩ <;> rw [h]
  · refine hP.every_with_allOf hs fun q hq => ?_
    rcases List.mem_append.1 hq with hq | hq
    · exact hs.children q (mem_children_of_mem_allOf hq)
    · exact List.mem_singleton.1 hq ▸ hr
  · exact hr
  · exact .inline (hP.of_same hr.node rfl rfl rfl rfl (List.Subset.refl _)) hr.children

lemma every_absorbOneOf (hs : Every P (.inline s)) : Every P (unabsorbed s.absorbOneOf) := by
  rw [absorbOneOf]
  split
  · rename_i r hr
    refine hP.every_absorb ?_ (hs.children r (mem_children.2 (by simp [hr])))
    exact hs.of_children (hP.of_same hs.node rfl rfl rfl rfl (List.Subset.refl _)) fun q hq =>
      .inl (children_without_oneOf_subset s hq)
  · exact hs

lemma every_absorbAnyOf (hs : Every P (.inline s)) : Every P (unabsorbed s.absorbAnyOf) := by
  rw [absorbAnyOf]
  split
  · rename_i r hr
    refine hP.every_absorb ?_ (hs.children r (mem_children.2 (by simp [hr])))
    exact hs.of_children (hP.of_same hs.node rfl rfl rfl rfl (List.Subset.refl _)) fun q hq =>
      .inl (children_without_anyOf_subset s hq)
  · exact hs

lemma every_collapse (hs : Every P (.inline s)) (sw : Canonical.Switches) :
    Every P (s.collapse sw) := by
  rw [collapse]
  split
  · exact .ref _
  · split
    · rcases absorbAlternatives_cases s with h | ⟨t, ht, h⟩ <;> rw [h]
      · exact hP.every_absorbOneOf hs
      · have honeOf := hP.every_absorbOneOf hs
        rw [ht] at honeOf
        exact hP.every_absorbAnyOf honeOf
    · exact hs

/-- No node brings in a schema of another kind. -/
lemma every_canonicalNode (hs : Every P (.inline s)) (sw : Canonical.Switches) :
    Every P (s.canonicalNode sw) :=
  hP.every_collapse (hP.every_withType (hP.every_lift (hP.every_unifyParts
    (hP.every_dropNulls (hP.every_dropAlternatives (hP.every_distinctParts hs) sw) sw)))) sw

lemma every_mapChildren_of {f : SchemaRef → SchemaRef} (hs : P s)
    (h : ∀ r ∈ s.children, Every P (f r)) : Every P (.inline (s.mapChildren f)) := by
  refine .inline (hP.of_same hs (Table.keys_map _ _) rfl rfl rfl (List.Subset.refl _))
    fun r hr => ?_
  rw [children_mapChildren] at hr
  obtain ⟨q, hq, rfl⟩ := List.mem_map.1 hr
  exact h q hq

/-- **The canonical form brings in no schema of another kind.** -/
theorem every_canonicalRef {r : SchemaRef} (hr : Every P r) (sw : Canonical.Switches) :
    Every P (canonicalRef sw r) := by
  induction hr with
  | ref path =>
    rw [canonicalRef_ref]
    exact .ref path
  | @inline s hs _ ih =>
    rw [canonicalRef_inline]
    exact hP.every_canonicalNode (hP.every_mapChildren_of hs ih) sw

lemma every_mapChildren (sw : Canonical.Switches) (hs : Every P (.inline s)) :
    Every P (.inline (s.mapChildren (canonicalRef sw))) :=
  hP.every_mapChildren_of hs.node fun r hr => hP.every_canonicalRef (hs.children r hr) sw

end Hereditary

/-- Nothing that is lawful becomes unlawful. -/
lemma hereditary_lawful : Hereditary Lawful where
  node hs _ hkeys hkeywords := by
    refine ⟨?_, hkeys ▸ hs.distinct⟩
    rw [Keywords.Fresh, hkeywords.extensions]
    exact hs.fresh
  object := ⟨by rintro e ⟨⟩, List.nodup_nil⟩
  merged _ h := by
    obtain ⟨t, -, hread⟩ := Option.bind_eq_some_iff.1 h
    exact every_lawful_of_readNode? hread

end Schema

end ApiLowering
