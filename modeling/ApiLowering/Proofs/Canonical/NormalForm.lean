import ApiLowering.Proofs.Canonical.Steps
import Mathlib.Tactic.SplitIfs

/-!
# Schemas in normal form

The canonical form of a schema need not be its own canonical form: merged parts are not made
canonical again, and what a part becomes may be lifted once more. A schema stays as it is if none of
the steps finds anything to do, in it or below it.

## Main definitions

* `Schema.NormalNode` — no step finds anything to do at a schema.
* `Schema.NormalForm` — the same, for a schema and all schemas below it.

## Main results

* `Schema.canonicalNode_of_normalNode`, `Schema.canonicalRef_of_normalForm` — what is in normal form
  stays as it is.
-/

namespace ApiLowering

namespace Schema

/-! ## Normal nodes -/

/-- A schema has no empty list of types, requires no name twice, and has no part or alternative
twice. -/
structure Distinct (s : Schema) : Prop where
  types : s.keywords.types ≠ some (.several [])
  required : s.keywords.required.Nodup
  allOf : s.allOf.Pairwise fun a b => sameRef a b = false
  oneOf : s.oneOf.Pairwise fun a b => sameRef a b = false
  anyOf : s.anyOf.Pairwise fun a b => sameRef a b = false

/-- A schema has only such alternatives as the switches leave. -/
structure Plain (sw : Canonical.Switches) (s : Schema) : Prop where
  /-- A schema with properties has none at all. -/
  kept : sw.keepPropertiesOnly = true → s.properties.isEmpty = false → s.oneOf = [] ∧ s.anyOf = []
  /-- Null is not an alternative. -/
  nulls : sw.simplifyAlternatives = true → ∀ r ∈ s.oneOf ++ s.anyOf, isNullAlternative r = false
  /-- No alternative is the only one. -/
  several : sw.simplifyAlternatives = true → s.oneOf.length ≠ 1 ∧ s.anyOf.length ≠ 1

/-- A part repeats neither the description of the whole nor its default. -/
structure RepeatsNothing (s p : Schema) : Prop where
  description : s.keywords.description.isSome = true → p.keywords.description = none
  defaultValue : ∀ v ∈ p.keywords.defaultValue, ∀ w ∈ s.keywords.defaultValue, v.same w = false

/-- The parts of a schema cannot be put together any further: references go first, no inline part
repeats the whole, and several inline parts cannot be merged. -/
structure United (s : Schema) : Prop where
  ordered : inOrder s.allOf = s.allOf
  repeats : 1 < s.allOf.length → ∀ p ∈ inlines s.allOf, RepeatsNothing s p
  apart : 1 < (inlines s.allOf).length → mergeAll (inlines s.allOf) = none

/-- The whole takes nothing from its part: where it says nothing, the part says nothing either. -/
structure TakesNothing (s p : Schema) : Prop where
  title : s.keywords.title = none → p.keywords.title = none
  description : s.keywords.description = none → p.keywords.description = none
  deprecated : s.keywords.deprecated = none → p.keywords.deprecated = none
  nullable : s.keywords.nullable = none → p.keywords.nullable = none
  defaultValue : s.keywords.defaultValue = none → p.keywords.defaultValue = none
  sample : s.keywords.sample = none → p.keywords.sample = none
  samples : s.keywords.samples = none → p.keywords.samples = none
  externalDocs : s.keywords.externalDocs = none → p.keywords.externalDocs = none
  readOnly : s.keywords.readOnly = none → p.keywords.readOnly = none
  required : s.keywords.required = [] → p.keywords.required = []
  additional : s.additional = none → p.additional = none
  negated : s.negated = none → p.negated = none
  oneOf : s.oneOf = [] → p.oneOf = []
  anyOf : s.anyOf = [] → p.anyOf = []

/-- No step finds anything to do at a schema. -/
structure NormalNode (sw : Canonical.Switches) (s : Schema) : Prop where
  distinct : s.Distinct
  plain : s.Plain sw
  united : s.United
  /-- A sole inline part says something, and nothing that the whole could say for it. -/
  part : ∀ p, inlines s.allOf = [p] → p.isEmpty = false ∧ s.TakesNothing p
  /-- The schema says something. -/
  stated : s.isEmpty = false
  /-- The schema is not just another name for a reference. -/
  unaliased : s.alias? = none

/-- No step finds anything to do at a schema and all schemas below it. -/
inductive NormalForm (sw : Canonical.Switches) : SchemaRef → Prop
  | ref (path : String) : NormalForm sw (.ref path)
  | inline {s : Schema} : NormalNode sw s → (∀ r ∈ s.children, NormalForm sw r) →
    NormalForm sw (.inline s)

/-! ## Alternatives that stay as they are -/

lemma distinctParts_of_distinct {s : Schema} (h : s.Distinct) : s.distinctParts = s := by
  rw [distinctParts, distinctWith_eq_self_iff.2 h.allOf, distinctWith_eq_self_iff.2 h.oneOf,
    distinctWith_eq_self_iff.2 h.anyOf, distinctBy_eq_self_iff.2 (by simpa using h.required),
    if_neg (by simpa using h.types)]
  cases s
  rfl

section Alternatives

variable (sw : Canonical.Switches) {s : Schema}

lemma dropAlternatives_of_kept (h : sw.keepPropertiesOnly = true →
    s.properties.isEmpty = false → s.oneOf = [] ∧ s.anyOf = []) : s.dropAlternatives sw = s := by
  rw [dropAlternatives]
  split
  · rename_i hdrop
    rw [Bool.and_eq_true, Bool.not_eq_true'] at hdrop
    obtain ⟨honeOf, hanyOf⟩ := h hdrop.1 hdrop.2
    cases s
    simp_all
  · rfl

lemma dropNulls_of_nulls (h : sw.simplifyAlternatives = true →
    ∀ r ∈ s.oneOf ++ s.anyOf, isNullAlternative r = false) : s.dropNulls sw = s := by
  rw [dropNulls, if_neg]
  intro hdrop
  obtain ⟨hsw, hany⟩ := Bool.and_eq_true_iff.1 hdrop
  obtain ⟨r, hr, hnull⟩ := List.any_eq_true.1 hany
  rw [h hsw r hr] at hnull
  cases hnull

end Alternatives

/-! ## Parts that stay as they are -/

/-- The schema with the references among its parts first. -/
def partsInOrder (s : Schema) : Schema := { s with allOf := inOrder s.allOf }

lemma partsInOrder_eq_self {s : Schema} (h : inOrder s.allOf = s.allOf) : s.partsInOrder = s := by
  rw [partsInOrder, h]
  cases s
  rfl

lemma inOrder_of_length_le_one {rs : List SchemaRef} (h : rs.length ≤ 1) : inOrder rs = rs := by
  match rs, h with
  | [], _ => rfl
  | [.ref path], _ => rfl
  | [.inline p], _ => rfl

lemma description_withoutRepeated (s p : Schema) :
    (s.withoutRepeated p).keywords.description =
      if s.keywords.description.isSome then none else p.keywords.description := rfl

lemma defaultValue_withoutRepeated (s p : Schema) :
    (s.withoutRepeated p).keywords.defaultValue =
      p.keywords.defaultValue.filter fun v => !s.keywords.defaultValue.any (v.same ·) := by
  rw [withoutRepeated]
  rcases p.keywords.defaultValue with - | v <;> rcases s.keywords.defaultValue with - | w
  · rfl
  · rfl
  · rfl
  · by_cases h : v.same w = true <;> simp [Option.filter, h]

lemma withoutRepeated_of_repeatsNothing {s p : Schema} (h : s.RepeatsNothing p) :
    s.withoutRepeated p = p := by
  have hdescription : (s.withoutRepeated p).keywords.description = p.keywords.description := by
    rw [description_withoutRepeated]
    split
    · rename_i hs
      exact (h.description hs).symm
    · rfl
  have hdefault : (s.withoutRepeated p).keywords.defaultValue = p.keywords.defaultValue := by
    rw [defaultValue_withoutRepeated]
    rcases hv : p.keywords.defaultValue with - | v
    · rfl
    · rcases hw : s.keywords.defaultValue with - | w
      · rfl
      · simp [h.defaultValue v hv w hw]
  have hkeywords : s.withoutRepeated p = { p with
      keywords.description := (s.withoutRepeated p).keywords.description
      keywords.defaultValue := (s.withoutRepeated p).keywords.defaultValue } := rfl
  rw [hkeywords, hdescription, hdefault]
  cases p
  rfl

lemma unifyParts_of_united {s : Schema} (h : s.United) : s.unifyParts = s := by
  rw [unifyParts]
  split
  · rename_i hlength
    have hallOf : s.orderParts.allOf = s.allOf := by
      rw [orderParts_allOf, List.map_congr_left fun p hp =>
        withoutRepeated_of_repeatsNothing (h.repeats hlength p hp), List.map_id']
      exact h.ordered
    have horder : s.orderParts = s := by
      have hwhole : s.orderParts = { s with allOf := s.orderParts.allOf } := rfl
      rw [hwhole, hallOf]
      cases s
      rfl
    rw [horder, mergeParts_eq_self h.apart]
  · rfl

section Lift

variable {α : Type}

lemma orElse_eq_left {outer inner : Option α} (h : outer = none → inner = none) :
    (outer <|> inner) = outer := by
  cases outer <;> simp_all

lemma leftOver_eq_self {outer inner : Option α} (h : outer = none → inner = none) :
    leftOver outer inner = inner := by
  cases outer <;> simp_all [leftOver]

lemma takenList_eq_left {outer inner : List α} (h : outer = [] → inner = []) :
    takenList outer inner = outer := by
  cases outer <;> simp_all [takenList]

lemma leftOverList_eq_self {outer inner : List α} (h : outer = [] → inner = []) :
    leftOverList outer inner = inner := by
  cases outer <;> simp_all [leftOverList]

end Lift

lemma lifted_of_takesNothing {s p : Schema} (h : s.TakesNothing p) : s.lifted p = s := by
  rw [lifted, orElse_eq_left h.title, orElse_eq_left h.description, orElse_eq_left h.deprecated,
    orElse_eq_left h.nullable, orElse_eq_left h.defaultValue, orElse_eq_left h.sample,
    orElse_eq_left h.samples, orElse_eq_left h.externalDocs, orElse_eq_left h.readOnly,
    takenList_eq_left h.required, orElse_eq_left h.additional, orElse_eq_left h.negated,
    takenList_eq_left h.oneOf, takenList_eq_left h.anyOf]
  cases s
  rfl

lemma remainder_of_takesNothing {s p : Schema} (h : s.TakesNothing p) : s.remainder p = p := by
  rw [remainder, leftOver_eq_self h.title, leftOver_eq_self h.description,
    leftOver_eq_self h.deprecated, leftOver_eq_self h.nullable, leftOver_eq_self h.defaultValue,
    leftOver_eq_self h.sample, leftOver_eq_self h.samples, leftOver_eq_self h.externalDocs,
    leftOver_eq_self h.readOnly, leftOverList_eq_self h.required, leftOver_eq_self h.additional,
    leftOver_eq_self h.negated, leftOverList_eq_self h.oneOf, leftOverList_eq_self h.anyOf]
  cases p
  rfl

lemma replaceInline_eq_self {rs : List SchemaRef} {p : Schema} (h : inlines rs = [p])
    (hp : p.isEmpty = false) : replaceInline p rs = rs := by
  rw [replaceInline, if_neg (by simp [hp])]
  refine (List.map_congr_left fun r hr => ?_).trans (List.map_id rs)
  cases r with
  | ref path => rfl
  | inline q =>
    have hq : q ∈ inlines rs := mem_inlines.2 hr
    rw [h, List.mem_singleton] at hq
    rw [hq]
    rfl

lemma lift_of_part {s : Schema}
    (h : ∀ p, inlines s.allOf = [p] → p.isEmpty = false ∧ s.TakesNothing p) : s.lift = s := by
  by_cases hsole : ∃ p, inlines s.allOf = [p]
  · obtain ⟨p, hp⟩ := hsole
    obtain ⟨hstated, htakes⟩ := h p hp
    rw [lift_of_inlines hp, lifted_of_takesNothing htakes, remainder_of_takesNothing htakes,
      replaceInline_eq_self hp hstated]
    cases s
    rfl
  · exact lift_eq_self fun p hp => hsole ⟨p, hp⟩

/-! ## Wholes that stay as they are -/

lemma absorbOneOf_of_length_ne_one {s : Schema} (h : s.oneOf.length ≠ 1) :
    s.absorbOneOf = .inr s := by
  rw [absorbOneOf]
  split
  · rename_i r hr
    simp [hr] at h
  · rfl

lemma absorbAnyOf_of_length_ne_one {s : Schema} (h : s.anyOf.length ≠ 1) :
    s.absorbAnyOf = .inr s := by
  rw [absorbAnyOf]
  split
  · rename_i r hr
    simp [hr] at h
  · rfl

lemma absorbAlternatives_of_several {s : Schema} (honeOf : s.oneOf.length ≠ 1)
    (hanyOf : s.anyOf.length ≠ 1) : s.absorbAlternatives = .inline s := by
  rw [absorbAlternatives, absorbOneOf_of_length_ne_one honeOf]
  simp only [absorbAnyOf_of_length_ne_one hanyOf]

lemma collapse_of_plain {sw : Canonical.Switches} {s : Schema} (halias : s.alias? = none)
    (h : sw.simplifyAlternatives = true → s.oneOf.length ≠ 1 ∧ s.anyOf.length ≠ 1) :
    s.collapse sw = .inline s := by
  rw [collapse, halias]
  split_ifs with hsw
  · exact absorbAlternatives_of_several (h hsw).1 (h hsw).2
  · rfl

/-! ## Schemas that stay as they are -/

section Stays

variable {sw : Canonical.Switches}

/-- At a normal node no step does anything. -/
theorem canonicalNode_of_normalNode {s : Schema} (h : NormalNode sw s) :
    s.canonicalNode sw = .inline s := by
  have htype : s.withType = s := by
    rw [withType, h.stated]
    rfl
  rw [canonicalNode, distinctParts_of_distinct h.distinct, dropAlternatives_of_kept sw h.plain.kept,
    dropNulls_of_nulls sw h.plain.nulls, unifyParts_of_united h.united, lift_of_part h.part, htype,
    collapse_of_plain h.unaliased h.plain.several]

/-- A schema in normal form is its own canonical form. -/
theorem canonicalRef_of_normalForm {r : SchemaRef} (h : NormalForm sw r) :
    canonicalRef sw r = r := by
  induction h with
  | ref path => rw [canonicalRef_ref]
  | @inline s hnode _ ih =>
    have hchildren : s.mapChildren (canonicalRef sw) = s :=
      (mapChildren_congr ih).trans (mapChildren_id s)
    rw [canonicalRef_inline, hchildren, canonicalNode_of_normalNode hnode]

end Stays

end Schema

end ApiLowering
