import ApiLowering.Proofs.Canonical.NormalForm
import ApiLowering.Proofs.Schema.Rank

/-!
# Schemas that are their own canonical forms

Each step to the canonical form leaves a schema as it is or makes it lighter, except that references
may go first among the parts. So a schema that is its own canonical form is one at which no step
finds anything to do.

## Main results

* `Schema.settled_of_rank_le` — a node that gets no lighter is normal.
* `Schema.rank_canonicalRef_le` — no canonical form is heavier than the schema.
* `Schema.canonicalRef_eq_self_iff` — exactly the schemas in normal form stay as they are.
-/

namespace ApiLowering

namespace Schema

/-! ## Distinct parts -/

lemma types_or_typesLoad_lt (s : Schema) : s.keywords.types ≠ some (.several []) ∨
    typesLoad s.distinctParts.keywords.types < typesLoad s.keywords.types := by
  by_cases h : s.keywords.types = some (.several [])
  · have hnone : s.distinctParts.keywords.types = none := if_pos (beq_iff_eq.2 h)
    rw [hnone, h]
    exact .inr (by decide)
  · exact .inl h

lemma typesLoad_distinctParts_le (s : Schema) :
    typesLoad s.distinctParts.keywords.types ≤ typesLoad s.keywords.types := by
  rcases types_or_typesLoad_lt s with h | h
  · have hsame : s.distinctParts.keywords.types = s.keywords.types := if_neg (by simpa using h)
    rw [hsame]
  · exact h.le

lemma nodup_or_length_lt (names : List String) :
    names.Nodup ∨ (distinctBy id names).length < names.length := by
  have hsublist : (distinctBy id names).Sublist names := distinctWith_sublist _ _
  rcases hsublist.length_le.eq_or_lt with h | h
  · refine .inl ?_
    simpa using distinctBy_eq_self_iff.1 (hsublist.eq_of_length h)
  · exact .inr h

/-- A schema that is not distinct gets lighter. -/
lemma distinct_or_rank_lt (s : Schema) :
    s.Distinct ∨ rank (.inline s.distinctParts) < rank (.inline s) := by
  have hallOf : s.distinctParts.allOf = s.allOf ∨
      partsMass s.distinctParts.allOf < partsMass s.allOf :=
    eq_or_weightList_lt_of_sublist _ _ _ 1 2 Nat.one_pos (distinctWith_sublist sameRef s.allOf)
  have honeOf : s.distinctParts.oneOf = s.oneOf ∨
      alternativesMass s.distinctParts.oneOf < alternativesMass s.oneOf :=
    eq_or_weightList_lt_of_sublist _ _ _ 2 3 Nat.two_pos (distinctWith_sublist sameRef s.oneOf)
  have hanyOf : s.distinctParts.anyOf = s.anyOf ∨
      alternativesMass s.distinctParts.anyOf < alternativesMass s.anyOf :=
    eq_or_weightList_lt_of_sublist _ _ _ 2 3 Nat.two_pos (distinctWith_sublist sameRef s.anyOf)
  by_cases hlists : s.distinctParts.allOf = s.allOf ∧ s.distinctParts.oneOf = s.oneOf ∧
      s.distinctParts.anyOf = s.anyOf
  · obtain ⟨hallOf, honeOf, hanyOf⟩ := hlists
    have htypes := types_or_typesLoad_lt s
    have htypes_le := typesLoad_distinctParts_le s
    have hrequired := nodup_or_length_lt s.keywords.required
    have hrequired_le : (distinctBy id s.keywords.required).length ≤ s.keywords.required.length :=
      (distinctWith_sublist _ _).length_le
    have hown : ownLoad s.distinctParts = typesLoad s.distinctParts.keywords.types +
        (distinctBy id s.keywords.required).length + liftedLoad s := rfl
    by_cases h : s.keywords.types ≠ some (.several []) ∧ s.keywords.required.Nodup
    · exact .inl ⟨h.1, h.2, distinctWith_eq_self_iff.1 hallOf, distinctWith_eq_self_iff.1 honeOf,
        distinctWith_eq_self_iff.1 hanyOf⟩
    · rw [rank_lt_iff, mass_inline, mass_inline, load_inline, load_inline, hallOf, honeOf, hanyOf,
        hown, ownLoad]
      refine .inr (.inr ⟨rfl, ?_⟩)
      rcases not_and_or.1 h with h | h
      · have := htypes.resolve_left h
        omega
      · have := hrequired.resolve_left h
        omega
  · refine .inr (rank_lt_of_mass_lt ?_)
    rw [mass_inline, mass_inline]
    rcases hallOf with h | h <;> rcases honeOf with h' | h' <;> rcases hanyOf with h'' | h'' <;>
      simp_all <;> omega

/-! ## Alternatives -/

section Alternatives

variable (sw : Canonical.Switches)

lemma alternativesMass_pos {rs : List SchemaRef} (h : rs ≠ []) : 0 < alternativesMass rs := by
  cases rs with
  | nil => exact absurd rfl h
  | cons r rs =>
    rw [alternativesMass_cons]
    omega

/-- A schema that loses its alternatives gets lighter. -/
lemma kept_or_rank_lt (s : Schema) :
    (sw.keepPropertiesOnly = true → s.properties.isEmpty = false → s.oneOf = [] ∧ s.anyOf = []) ∨
      rank (.inline (s.dropAlternatives sw)) < rank (.inline s) := by
  by_cases h : sw.keepPropertiesOnly = true ∧ s.properties.isEmpty = false ∧
      ¬ (s.oneOf = [] ∧ s.anyOf = [])
  · obtain ⟨hsw, hproperties, hlists⟩ := h
    refine .inr (rank_lt_of_mass_lt ?_)
    rw [dropAlternatives, if_pos (by simp [hsw, hproperties]), mass_inline, mass_inline]
    simp only [alternativesMass_nil]
    rcases not_and_or.1 hlists with hne | hne <;>
    · have := alternativesMass_pos hne
      omega
  · refine .inl fun hsw hproperties => ?_
    by_contra hlists
    exact h ⟨hsw, hproperties, hlists⟩

/-- A schema that loses a null alternative gets lighter. -/
lemma nulls_or_rank_lt (s : Schema) :
    (sw.simplifyAlternatives = true → ∀ r ∈ s.oneOf ++ s.anyOf, isNullAlternative r = false) ∨
      rank (.inline (s.dropNulls sw)) < rank (.inline s) := by
  by_cases h : (sw.simplifyAlternatives && (s.oneOf ++ s.anyOf).any isNullAlternative) = true
  · refine .inr (rank_lt_of_mass_lt ?_)
    obtain ⟨r, hr, hnull⟩ := List.any_eq_true.1 (Bool.and_eq_true_iff.1 h).2
    have hallOf : (s.dropNulls sw).allOf = s.allOf := by
      rw [dropNulls, if_pos h]
    have honeOf : (s.dropNulls sw).oneOf = s.oneOf.filter (!isNullAlternative ·) := by
      rw [dropNulls, if_pos h]
    have hanyOf : (s.dropNulls sw).anyOf = s.anyOf.filter (!isNullAlternative ·) := by
      rw [dropNulls, if_pos h]
    have hfilter (rs qs : List SchemaRef) (hrs : qs = rs.filter (!isNullAlternative ·)) :
        alternativesMass qs ≤ alternativesMass rs ∧
          (r ∈ rs → alternativesMass qs < alternativesMass rs) := by
      have hsublist : qs.Sublist rs := hrs ▸ List.filter_sublist
      refine ⟨weightList_le_of_sublist _ _ _ 2 3 hsublist, fun hr => ?_⟩
      refine (eq_or_weightList_lt_of_sublist _ _ _ 2 3 Nat.two_pos hsublist).resolve_left ?_
      intro hsame
      have hkept := List.filter_eq_self.1 (hrs.symm.trans hsame) r hr
      simp [hnull] at hkept
    have hle := hfilter _ _ honeOf
    have hle' := hfilter _ _ hanyOf
    rw [mass_inline, mass_inline, hallOf]
    rcases List.mem_append.1 hr with hr | hr
    · have hlt := hle.2 hr
      omega
    · have hlt := hle'.2 hr
      omega
  · refine .inl fun hsw r hr => ?_
    rw [Bool.and_eq_true_iff, not_and] at h
    have hnone := h hsw
    simp only [List.any_eq_true, not_exists, not_and, Bool.not_eq_true] at hnone
    exact hnone r hr

/-! ## Sole alternatives -/

lemma mass_absorb_lt (s : Schema) (r : SchemaRef) :
    mass (unabsorbed (s.absorb r)) < mass (.inline s) + (2 + 3 * mass r) := by
  rcases absorb_cases s r with h | h | ⟨p, rfl, h⟩ <;> rw [h]
  · simp only [unabsorbed, mass_inline, partsMass_append, partsMass_cons, partsMass_nil]
    omega
  · simp only [unabsorbed]
    omega
  · simp only [unabsorbed, mass_inline]
    omega

lemma oneOf_or_mass_lt (s : Schema) :
    s.oneOf.length ≠ 1 ∨ mass (unabsorbed s.absorbOneOf) < mass (.inline s) := by
  by_cases hlength : s.oneOf.length = 1
  · obtain ⟨r, hr⟩ := List.length_eq_one_iff.1 hlength
    have h := mass_absorb_lt { s with oneOf := [] } r
    rw [absorbOneOf, hr]
    refine .inr (h.trans_eq ?_)
    rw [mass_inline, mass_inline, hr]
    simp only [alternativesMass_cons, alternativesMass_nil]
    omega
  · exact .inl hlength

lemma anyOf_or_mass_lt (s : Schema) :
    s.anyOf.length ≠ 1 ∨ mass (unabsorbed s.absorbAnyOf) < mass (.inline s) := by
  by_cases hlength : s.anyOf.length = 1
  · obtain ⟨r, hr⟩ := List.length_eq_one_iff.1 hlength
    have h := mass_absorb_lt { s with anyOf := [] } r
    rw [absorbAnyOf, hr]
    refine .inr (h.trans_eq ?_)
    rw [mass_inline, mass_inline, hr]
    simp only [alternativesMass_cons, alternativesMass_nil]
    omega
  · exact .inl hlength

/-- A schema that absorbs an alternative gets lighter. -/
lemma several_or_mass_lt (s : Schema) :
    (s.oneOf.length ≠ 1 ∧ s.anyOf.length ≠ 1) ∨
      mass s.absorbAlternatives < mass (.inline s) := by
  have hle (t : Schema) : mass (unabsorbed t.absorbAnyOf) ≤ mass (.inline t) := by
    rcases anyOf_or_mass_lt t with h | h
    · rw [absorbAnyOf_of_length_ne_one h]
      exact Nat.le_refl _
    · exact h.le
  rcases oneOf_or_mass_lt s with honeOf | hlt
  · have habsorb : s.absorbAlternatives = unabsorbed s.absorbAnyOf := by
      rw [absorbAlternatives, absorbOneOf_of_length_ne_one honeOf]
      cases h : s.absorbAnyOf <;> simp only [h] <;> rfl
    rw [habsorb]
    exact (anyOf_or_mass_lt s).imp_left fun hanyOf => ⟨honeOf, hanyOf⟩
  · refine .inr ?_
    rcases absorbAlternatives_cases s with h | ⟨t, ht, h⟩
    · rwa [h]
    · rw [ht] at hlt
      rw [h]
      exact (hle t).trans_lt hlt

/-- A schema that comes down to something else gets lighter. -/
lemma collapse_or_rank_lt (s : Schema) :
    (s.alias? = none ∧
      (sw.simplifyAlternatives = true → s.oneOf.length ≠ 1 ∧ s.anyOf.length ≠ 1) ∧
      s.collapse sw = .inline s) ∨ rank (s.collapse sw) < rank (.inline s) := by
  rw [collapse]
  split
  · refine .inr (rank_lt_of_mass_lt ?_)
    rw [mass_ref, mass_inline]
    omega
  · rename_i halias
    split
    · rename_i hsw
      exact (several_or_mass_lt s).imp
        (fun h => ⟨halias, fun _ => h, absorbAlternatives_of_several h.1 h.2⟩) rank_lt_of_mass_lt
    · rename_i hsw
      exact .inl ⟨halias, fun h => absurd h hsw, rfl⟩

end Alternatives

/-! ## Several parts -/

lemma mass_withoutRepeated (s p : Schema) :
    mass (.inline (s.withoutRepeated p)) = mass (.inline p) := by
  rw [mass_inline, mass_inline]
  rfl

lemma presence_filter_le {α : Type} (p : α → Bool) (o : Option α) :
    presence (o.filter p) ≤ presence o := by
  cases o with
  | none => exact Nat.le_refl _
  | some v => cases h : p v <;> simp [h, presence]

/-- A part that repeats the whole gets lighter. -/
lemma repeatsNothing_or_load_lt (s p : Schema) :
    s.RepeatsNothing p ∨ load (.inline (s.withoutRepeated p)) < load (.inline p) := by
  have hdescription : presence (s.withoutRepeated p).keywords.description ≤
      presence p.keywords.description := by
    rw [description_withoutRepeated]
    split
    · exact Nat.zero_le _
    · exact Nat.le_refl _
  have hdefault : presence (s.withoutRepeated p).keywords.defaultValue ≤
      presence p.keywords.defaultValue := by
    rw [defaultValue_withoutRepeated]
    exact presence_filter_le _ _
  have hown : ownLoad (s.withoutRepeated p) = typesLoad p.keywords.types +
      p.keywords.required.length + (presence p.keywords.title +
        presence (s.withoutRepeated p).keywords.description + presence p.keywords.deprecated +
        presence p.keywords.nullable + presence (s.withoutRepeated p).keywords.defaultValue +
        presence p.keywords.sample + presence p.keywords.samples +
        presence p.keywords.externalDocs + presence p.keywords.readOnly + presence p.additional +
        presence p.negated) := rfl
  have hload : load (.inline (s.withoutRepeated p)) = ownLoad (s.withoutRepeated p) +
      partsLoad p.allOf + alternativesLoad p.oneOf + alternativesLoad p.anyOf := load_inline _
  rw [hload, load_inline, hown, ownLoad, liftedLoad]
  by_cases h : s.keywords.description.isSome = true → p.keywords.description = none
  · by_cases h' : ∀ v ∈ p.keywords.defaultValue, ∀ w ∈ s.keywords.defaultValue, v.same w = false
    · exact .inl ⟨h, h'⟩
    · push Not at h'
      obtain ⟨v, hv, w, hw, hsame⟩ := h'
      have hlt : presence (s.withoutRepeated p).keywords.defaultValue <
          presence p.keywords.defaultValue := by
        rw [defaultValue_withoutRepeated, Option.mem_def.1 hv, Option.mem_def.1 hw]
        simp_all [presence]
      omega
  · obtain ⟨hs, hp⟩ := Classical.not_imp.1 h
    have hlt : presence (s.withoutRepeated p).keywords.description <
        presence p.keywords.description := by
      obtain ⟨text, htext⟩ := Option.ne_none_iff_exists'.1 hp
      rw [description_withoutRepeated, if_pos hs, htext]
      exact Nat.one_pos
    omega

lemma partsMass_inOrder (rs : List SchemaRef) : partsMass (inOrder rs) = partsMass rs :=
  weightList_perm _ _ _ 1 2 (inOrder_perm rs)

lemma partsLoad_inOrder (rs : List SchemaRef) : partsLoad (inOrder rs) = partsLoad rs :=
  weightList_perm _ _ _ 0 2 (inOrder_perm rs)

lemma partsMass_map_withoutRepeated (s : Schema) (ps : List Schema) :
    partsMass ((ps.map s.withoutRepeated).map .inline) = partsMass (ps.map .inline) := by
  induction ps with
  | nil => rfl
  | cons p ps ih =>
    rw [List.map_cons, List.map_cons, List.map_cons, partsMass_cons, partsMass_cons, ih,
      mass_withoutRepeated]

lemma repeatsNothing_or_partsLoad_lt (s : Schema) (ps : List Schema) :
    (∀ p ∈ ps, s.RepeatsNothing p) ∨
      partsLoad ((ps.map s.withoutRepeated).map .inline) < partsLoad (ps.map .inline) := by
  induction ps with
  | nil => exact .inl (by simp)
  | cons p ps ih =>
    simp only [List.map_cons, partsLoad_cons, List.forall_mem_cons]
    rcases repeatsNothing_or_load_lt s p with hp | hlt
    · rw [withoutRepeated_of_repeatsNothing hp]
      refine ih.imp (fun h => ⟨hp, h⟩) fun h => ?_
      omega
    · refine .inr ?_
      rcases ih with h | h
      · rw [List.map_congr_left fun q hq => withoutRepeated_of_repeatsNothing (h q hq),
          List.map_id']
        omega
      · omega

/-- A schema whose parts repeat it gets lighter when they are put in order. -/
lemma orderParts_or_rank_lt (s : Schema) :
    ((∀ p ∈ inlines s.allOf, s.RepeatsNothing p) ∧ s.orderParts = s.partsInOrder) ∨
      rank (.inline s.orderParts) < rank (.inline s) := by
  have hmass : mass (.inline s.orderParts) = mass (.inline s) := by
    have hparts : partsMass s.orderParts.allOf = partsMass s.allOf := by
      rw [orderParts_allOf, partsMass_append, partsMass_map_withoutRepeated, ← partsMass_append]
      exact partsMass_inOrder s.allOf
    rw [mass_inline, mass_inline, hparts]
    rfl
  rcases repeatsNothing_or_partsLoad_lt s (inlines s.allOf) with h | hlt
  · refine .inl ⟨h, ?_⟩
    have hallOf : s.orderParts.allOf = inOrder s.allOf := by
      rw [orderParts_allOf,
        List.map_congr_left fun p hp => withoutRepeated_of_repeatsNothing (h p hp), List.map_id']
      rfl
    rw [partsInOrder, ← hallOf]
    rfl
  · refine .inr (rank_lt_iff.2 (.inr ⟨hmass, ?_⟩))
    have hparts : partsLoad s.orderParts.allOf < partsLoad s.allOf := by
      have hordered := partsLoad_inOrder s.allOf
      rw [inOrder, partsLoad_append] at hordered
      rw [orderParts_allOf, partsLoad_append]
      omega
    have hload : load (.inline s.orderParts) = ownLoad s + partsLoad s.orderParts.allOf +
        alternativesLoad s.oneOf + alternativesLoad s.anyOf := load_inline s.orderParts
    rw [hload, load_inline]
    omega

/-- A schema whose inline parts are merged gets lighter. -/
lemma apart_or_rank_lt {s : Schema} (hs : Every Lawful (.inline s)) :
    ((1 < (inlines s.allOf).length → mergeAll (inlines s.allOf) = none) ∧ s.mergeParts = s) ∨
      rank (.inline s.mergeParts) < rank (.inline s) := by
  by_cases h : 1 < (inlines s.allOf).length → mergeAll (inlines s.allOf) = none
  · exact .inl ⟨h, mergeParts_eq_self h⟩
  · obtain ⟨hlength, hmerge⟩ := Classical.not_imp.1 h
    obtain ⟨merged, hmerged⟩ := Option.ne_none_iff_exists'.1 hmerge
    refine .inr (rank_lt_of_mass_lt ?_)
    have hlt := mass_mergeAll_lt hlength
      (fun p hp => hs.children _ (mem_children_of_mem_allOf (mem_inlines.1 hp))) hmerged
    have hordered := partsMass_inOrder s.allOf
    rw [inOrder, partsMass_append] at hordered
    rw [mergeParts_of_merged hlength hmerged, mass_inline, mass_inline, partsMass_append]
    simp only
    omega

/-- A schema whose parts are put together gets lighter, unless they are only put in order. -/
lemma united_or_rank_lt {s : Schema} (hs : Every Lawful (.inline s)) :
    ((1 < s.allOf.length → ∀ p ∈ inlines s.allOf, s.RepeatsNothing p) ∧
      (1 < (inlines s.allOf).length → mergeAll (inlines s.allOf) = none) ∧
      s.unifyParts = s.partsInOrder) ∨ rank (.inline s.unifyParts) < rank (.inline s) := by
  rw [unifyParts]
  split
  · have happart := apart_or_rank_lt (hereditary_lawful.every_orderParts hs)
    rcases orderParts_or_rank_lt s with ⟨hrepeats, horder⟩ | hlt
    · have hinlines : inlines s.orderParts.allOf = inlines s.allOf := by
        rw [inlines_orderParts,
          List.map_congr_left fun p hp => withoutRepeated_of_repeatsNothing (hrepeats p hp),
          List.map_id']
      have hrank : rank (.inline s.partsInOrder) = rank (.inline s) := by
        rw [rank, rank, mass_inline, mass_inline, load_inline, load_inline]
        exact congrArg₂ (fun m l => toLex (1 + m + alternativesMass s.oneOf +
          alternativesMass s.anyOf, ownLoad s + l + alternativesLoad s.oneOf +
          alternativesLoad s.anyOf)) (partsMass_inOrder s.allOf) (partsLoad_inOrder s.allOf)
      rw [hinlines] at happart
      rw [horder] at happart ⊢
      rw [hrank] at happart
      exact happart.imp_left fun h => ⟨fun _ => hrepeats, h⟩
    · rcases happart with ⟨-, h⟩ | hlt'
      · rw [h]
        exact .inr hlt
      · exact .inr (hlt'.trans hlt)
  · rename_i hlength
    have hle : (inlines s.allOf).length ≤ s.allOf.length := List.length_filterMap_le _ _
    refine .inl ⟨fun h => absurd h hlength, fun h => absurd h (by omega), ?_⟩
    exact (partsInOrder_eq_self (inOrder_of_length_le_one (by omega))).symm

/-! ## A sole inline part -/

section Lift

variable {α : Type}

/-- What the whole takes counts less than it did in the part. -/
lemma presence_lifted (outer inner : Option α) :
    presence (outer <|> inner) + 2 * presence (leftOver outer inner) ≤
        presence outer + 2 * presence inner ∧
      (¬ (outer = none → inner = none) →
        presence (outer <|> inner) + 2 * presence (leftOver outer inner) <
          presence outer + 2 * presence inner) := by
  cases outer <;> cases inner <;> simp [presence, leftOver]

lemma length_lifted (outer inner : List α) :
    (takenList outer inner).length + 2 * (leftOverList outer inner).length ≤
        outer.length + 2 * inner.length ∧
      (¬ (outer = [] → inner = []) →
        (takenList outer inner).length + 2 * (leftOverList outer inner).length <
          outer.length + 2 * inner.length) := by
  cases outer <;> cases inner <;> (simp [takenList, leftOverList]; try omega)

lemma alternativesMass_lifted (outer inner : List SchemaRef) :
    alternativesMass (takenList outer inner) + 2 * alternativesMass (leftOverList outer inner) ≤
        alternativesMass outer + 2 * alternativesMass inner ∧
      (¬ (outer = [] → inner = []) →
        alternativesMass (takenList outer inner) +
            2 * alternativesMass (leftOverList outer inner) <
          alternativesMass outer + 2 * alternativesMass inner) := by
  cases outer <;> cases inner <;> (simp [takenList, leftOverList]; try omega)

end Lift

/-- The weight of the parts after the only inline one has changed. -/
lemma weightList_replaceInline (own : Schema → Nat) (part alternative base factor : Nat)
    {rs : List SchemaRef} {p q : Schema} (h : inlines rs = [p]) (hq : q.isEmpty = false) :
    weightList own part alternative base factor (replaceInline q rs) +
        factor * weight own part alternative p =
      weightList own part alternative base factor rs + factor * weight own part alternative q := by
  have hreplaced (rs : List SchemaRef) :
      weightList own part alternative base factor
          (rs.map fun r => if r.isRef then r else .inline q) =
        weightList own part alternative base factor (references rs) +
          (inlines rs).length * (base + factor * weight own part alternative q) := by
    induction rs with
    | nil => simp [references, inlines]
    | cons r rs ih =>
      cases r with
      | ref path =>
        rw [List.map_cons, weightList_cons, ih]
        exact (Nat.add_assoc _ _ _).symm
      | inline s =>
        rw [List.map_cons, weightList_cons, ih]
        change _ = weightList own part alternative base factor (references rs) +
          ((inlines rs).length + 1) * _
        simp only [Referable.isRef, Referable.path?, Option.isSome_none, Bool.false_eq_true,
          if_false, weightRef_inline, Nat.add_mul, Nat.one_mul]
        omega
  have hordered := weightList_perm own part alternative base factor (inOrder_perm rs)
  rw [inOrder, h, weightList_append, List.map_singleton, weightList_cons, weightList_nil,
    weightRef_inline] at hordered
  rw [replaceInline, if_neg (by simp [hq]), hreplaced, h, List.length_singleton, Nat.one_mul]
  omega

/-- A sum stays below another one, and is smaller if one of its terms is. -/
lemma add_lowered {a b c d : Nat} {p q : Prop} (h : a ≤ b ∧ (¬ p → a < b))
    (h' : c ≤ d ∧ (¬ q → c < d)) : a + c ≤ b + d ∧ (¬ (p ∧ q) → a + c < b + d) := by
  refine ⟨Nat.add_le_add h.1 h'.1, fun hpq => ?_⟩
  rcases Classical.not_and_iff_not_or_not.1 hpq with hp | hq
  · exact Nat.add_lt_add_of_lt_of_le (h.2 hp) h'.1
  · exact Nat.add_lt_add_of_le_of_lt h.1 (h'.2 hq)

/-- What a whole takes from its part counts less than it did there. -/
lemma ownLoad_lifted (s p : Schema) :
    ownLoad (s.lifted p) + 2 * ownLoad (s.remainder p) ≤ ownLoad s + 2 * ownLoad p ∧
      ((s.oneOf = [] → p.oneOf = []) → (s.anyOf = [] → p.anyOf = []) → ¬ s.TakesNothing p →
        ownLoad (s.lifted p) + 2 * ownLoad (s.remainder p) < ownLoad s + 2 * ownLoad p) := by
  obtain ⟨hle, hlt⟩ :=
    add_lowered (presence_lifted s.keywords.title p.keywords.title) <|
    add_lowered (presence_lifted s.keywords.description p.keywords.description) <|
    add_lowered (presence_lifted s.keywords.deprecated p.keywords.deprecated) <|
    add_lowered (presence_lifted s.keywords.nullable p.keywords.nullable) <|
    add_lowered (presence_lifted s.keywords.defaultValue p.keywords.defaultValue) <|
    add_lowered (presence_lifted s.keywords.sample p.keywords.sample) <|
    add_lowered (presence_lifted s.keywords.samples p.keywords.samples) <|
    add_lowered (presence_lifted s.keywords.externalDocs p.keywords.externalDocs) <|
    add_lowered (presence_lifted s.keywords.readOnly p.keywords.readOnly) <|
    add_lowered (length_lifted s.keywords.required p.keywords.required) <|
    add_lowered (presence_lifted s.additional p.additional)
      (presence_lifted s.negated p.negated)
  simp only [ownLoad, liftedLoad, lifted, remainder]
  refine ⟨by omega, fun honeOf hanyOf htakes => ?_⟩
  have hmoved := hlt (by
    rintro ⟨htitle, hdescription, hdeprecated, hnullable, hdefaultValue, hsample, hsamples,
      hexternalDocs, hreadOnly, hrequired, hadditional, hnegated⟩
    exact htakes ⟨htitle, hdescription, hdeprecated, hnullable, hdefaultValue, hsample, hsamples,
      hexternalDocs, hreadOnly, hrequired, hadditional, hnegated, honeOf, hanyOf⟩)
  omega

lemma rank_lift_of_isEmpty_lt {s p : Schema} (hp : inlines s.allOf = [p])
    (h : (s.remainder p).isEmpty = true) : rank (.inline s.lift) < rank (.inline s) := by
  have honeOf := (alternativesMass_lifted s.oneOf p.oneOf).1
  have hanyOf := (alternativesMass_lifted s.anyOf p.anyOf).1
  have hordered := partsMass_inOrder s.allOf
  rw [inOrder, hp, partsMass_append, List.map_singleton, partsMass_cons, partsMass_nil,
    mass_inline] at hordered
  refine rank_lt_of_mass_lt ?_
  rw [lift_of_inlines hp, replaceInline, if_pos h, mass_inline, mass_inline]
  simp only [lifted]
  omega

lemma ownLoad_with_allOf (s : Schema) (rs : List SchemaRef) :
    ownLoad { s with allOf := rs } = ownLoad s := rfl

section Weigh

variable {s p : Schema}

lemma mass_lift (hp : inlines s.allOf = [p]) : mass (.inline s.lift) = 1 + partsMass s.lift.allOf +
    alternativesMass (takenList s.oneOf p.oneOf) + alternativesMass (takenList s.anyOf p.anyOf) := by
  rw [mass_inline, lift_of_inlines hp]
  rfl

lemma load_lift (hp : inlines s.allOf = [p]) : load (.inline s.lift) = ownLoad (s.lifted p) +
    partsLoad s.lift.allOf + alternativesLoad (takenList s.oneOf p.oneOf) +
    alternativesLoad (takenList s.anyOf p.anyOf) := by
  rw [load_inline, lift_of_inlines hp, ownLoad_with_allOf]
  rfl

lemma mass_remainder (s p : Schema) : mass (.inline (s.remainder p)) = 1 + partsMass p.allOf +
    alternativesMass (leftOverList s.oneOf p.oneOf) +
    alternativesMass (leftOverList s.anyOf p.anyOf) := mass_inline _

lemma load_remainder (s p : Schema) : load (.inline (s.remainder p)) =
    ownLoad (s.remainder p) + partsLoad p.allOf + alternativesLoad (leftOverList s.oneOf p.oneOf) +
    alternativesLoad (leftOverList s.anyOf p.anyOf) := load_inline _

lemma partsMass_lift (hp : inlines s.allOf = [p]) (h : (s.remainder p).isEmpty = false) :
    partsMass s.lift.allOf + 2 * mass (.inline p) =
      partsMass s.allOf + 2 * mass (.inline (s.remainder p)) := by
  rw [lift_allOf hp, mass, weightRef_inline, weightRef_inline]
  exact weightList_replaceInline _ _ _ 1 2 hp h

lemma partsLoad_lift (hp : inlines s.allOf = [p]) (h : (s.remainder p).isEmpty = false) :
    partsLoad s.lift.allOf + 2 * load (.inline p) =
      partsLoad s.allOf + 2 * load (.inline (s.remainder p)) := by
  rw [lift_allOf hp, load, weightRef_inline, weightRef_inline]
  exact weightList_replaceInline _ _ _ 0 2 hp h

/-- A schema that takes something from its part gets lighter. -/
lemma rank_lift_of_taken_lt (hp : inlines s.allOf = [p]) (h : (s.remainder p).isEmpty = false)
    (htakes : ¬ s.TakesNothing p) : rank (.inline s.lift) < rank (.inline s) := by
  have honeOf := alternativesMass_lifted s.oneOf p.oneOf
  have hanyOf := alternativesMass_lifted s.anyOf p.anyOf
  have hparts := partsMass_lift hp h
  have hwhole := mass_lift hp
  have hpart := mass_remainder s p
  have hmass_p := mass_inline p
  have hmass_s := mass_inline s
  by_cases hlists : (s.oneOf = [] → p.oneOf = []) ∧ (s.anyOf = [] → p.anyOf = [])
  · have hown := (ownLoad_lifted s p).2 hlists.1 hlists.2 htakes
    have hparts' := partsLoad_lift hp h
    have hwhole' := load_lift hp
    have hpart' := load_remainder s p
    have hload_p := load_inline p
    have hload_s := load_inline s
    rw [takenList_eq_left hlists.1, takenList_eq_left hlists.2] at hwhole hwhole'
    rw [leftOverList_eq_self hlists.1, leftOverList_eq_self hlists.2] at hpart hpart'
    rw [rank_lt_iff]
    omega
  · refine rank_lt_of_mass_lt ?_
    rcases not_and_or.1 hlists with hmoved | hmoved
    · have hlt := honeOf.2 hmoved
      omega
    · have hlt := hanyOf.2 hmoved
      omega

end Weigh

/-- A schema that takes something from its part gets lighter, and so does one that loses it. -/
lemma part_or_rank_lt (s : Schema) :
    (∀ p, inlines s.allOf = [p] → p.isEmpty = false ∧ s.TakesNothing p) ∨
      rank (.inline s.lift) < rank (.inline s) := by
  by_cases hsole : ∃ p, inlines s.allOf = [p]
  · obtain ⟨p, hp⟩ := hsole
    cases hempty : (s.remainder p).isEmpty with
    | true => exact .inr (rank_lift_of_isEmpty_lt hp hempty)
    | false =>
      by_cases htakes : s.TakesNothing p
      · refine .inl fun q hq => ?_
        obtain rfl := List.singleton_inj.1 (hp.symm.trans hq)
        exact ⟨remainder_of_takesNothing htakes ▸ hempty, htakes⟩
      · exact .inr (rank_lift_of_taken_lt hp hempty htakes)
  · exact .inl fun p hp => absurd ⟨p, hp⟩ hsole

/-! ## Empty schemas -/

lemma types_of_isEmpty {s : Schema} (h : s.isEmpty = true) : s.keywords.types = none := by
  simp only [isEmpty, Bool.and_eq_true, List.isEmpty_iff] at h
  obtain ⟨⟨⟨⟨⟨⟨⟨hmembers, -⟩, -⟩, -⟩, -⟩, -⟩, -⟩, -⟩ := h
  have hmember : Json.member? "type" s.keywords.types TypeSet.toJson = [] := by
    unfold Keywords.members at hmembers
    simp only [List.append_eq_nil_iff] at hmembers
    tauto
  cases htypes : s.keywords.types with
  | none => rfl
  | some t => simp [Json.member?, htypes] at hmember

/-- An empty schema that gets a type gets lighter. -/
lemma stated_or_rank_lt (s : Schema) :
    (s.isEmpty = false ∧ s.withType = s) ∨ rank (.inline s.withType) < rank (.inline s) := by
  rw [withType]
  cases h : s.isEmpty with
  | false => exact .inl ⟨rfl, rfl⟩
  | true =>
    refine .inr ?_
    have htypes := types_of_isEmpty h
    simp only [isEmpty, Bool.and_eq_true, List.isEmpty_iff] at h
    obtain ⟨⟨⟨-, hallOf⟩, honeOf⟩, hanyOf⟩ := h
    have hmass : mass (.inline (ofType .object)) = 1 := by
      rw [mass_inline]
      rfl
    have hload : load (.inline (ofType .object)) = 0 := by
      rw [load_inline]
      rfl
    rw [rank_lt_iff, if_pos rfl, hmass, hload, mass_inline, load_inline, hallOf, honeOf, hanyOf,
      ownLoad, htypes]
    refine .inr ⟨rfl, ?_⟩
    simp only [typesLoad]
    omega

/-! ## Nodes -/

section Node

variable (sw : Canonical.Switches)

lemma rank_distinctParts_le (s : Schema) : rank (.inline s.distinctParts) ≤ rank (.inline s) := by
  rcases distinct_or_rank_lt s with h | h
  · rw [distinctParts_of_distinct h]
  · exact h.le

lemma rank_dropAlternatives_le (s : Schema) :
    rank (.inline (s.dropAlternatives sw)) ≤ rank (.inline s) := by
  rcases kept_or_rank_lt sw s with h | h
  · rw [dropAlternatives_of_kept sw h]
  · exact h.le

lemma rank_dropNulls_le (s : Schema) :
    rank (.inline (s.dropNulls sw)) ≤ rank (.inline s) := by
  rcases nulls_or_rank_lt sw s with h | h
  · rw [dropNulls_of_nulls sw h]
  · exact h.le

lemma rank_partsInOrder (s : Schema) : rank (.inline s.partsInOrder) = rank (.inline s) := by
  rw [rank, rank, mass_inline, mass_inline, load_inline, load_inline]
  exact congrArg₂ (fun m l => toLex (1 + m + alternativesMass s.oneOf +
    alternativesMass s.anyOf, ownLoad s + l + alternativesLoad s.oneOf +
    alternativesLoad s.anyOf)) (partsMass_inOrder s.allOf) (partsLoad_inOrder s.allOf)

lemma rank_unifyParts_le {s : Schema} (hs : Every Lawful (.inline s)) :
    rank (.inline s.unifyParts) ≤ rank (.inline s) := by
  rcases united_or_rank_lt hs with ⟨-, -, h⟩ | h
  · rw [h, rank_partsInOrder]
  · exact h.le

lemma rank_lift_le (s : Schema) : rank (.inline s.lift) ≤ rank (.inline s) := by
  rcases part_or_rank_lt s with h | h
  · rw [lift_of_part h]
  · exact h.le

lemma rank_withType_le (s : Schema) : rank (.inline s.withType) ≤ rank (.inline s) := by
  rcases stated_or_rank_lt s with ⟨-, h⟩ | h
  · rw [h]
  · exact h.le

lemma rank_collapse_le (s : Schema) : rank (s.collapse sw) ≤ rank (.inline s) := by
  rcases collapse_or_rank_lt sw s with ⟨-, -, h⟩ | h
  · rw [h]
  · exact h.le

lemma rank_collapse_withType_le (s : Schema) :
    rank (s.withType.collapse sw) ≤ rank (.inline s) :=
  (rank_collapse_le sw _).trans (rank_withType_le s)

lemma rank_collapse_lift_le (s : Schema) :
    rank (s.lift.withType.collapse sw) ≤ rank (.inline s) :=
  (rank_collapse_withType_le sw _).trans (rank_lift_le s)

section Fresh

variable {s : Schema} (hs : Every Lawful (.inline s))

include hs

lemma rank_collapse_unifyParts_le :
    rank (s.unifyParts.lift.withType.collapse sw) ≤ rank (.inline s) :=
  (rank_collapse_lift_le sw _).trans (rank_unifyParts_le hs)

lemma rank_collapse_dropNulls_le :
    rank ((s.dropNulls sw).unifyParts.lift.withType.collapse sw) ≤ rank (.inline s) :=
  (rank_collapse_unifyParts_le sw (hereditary_lawful.every_dropNulls hs sw)).trans
    (rank_dropNulls_le sw s)

lemma rank_collapse_dropAlternatives_le :
    rank (((s.dropAlternatives sw).dropNulls sw).unifyParts.lift.withType.collapse sw) ≤
      rank (.inline s) :=
  (rank_collapse_dropNulls_le sw (hereditary_lawful.every_dropAlternatives hs sw)).trans
    (rank_dropAlternatives_le sw s)

/-- No node gets heavier. -/
lemma rank_canonicalNode_le : rank (s.canonicalNode sw) ≤ rank (.inline s) :=
  (rank_collapse_dropAlternatives_le sw (hereditary_lawful.every_distinctParts hs)).trans
    (rank_distinctParts_le s)

/-- **A node that gets no lighter** has nothing to do but to put its references first.

**Proof sketch.** Each step leaves the schema as it is or makes it lighter, and the later ones do
not make it heavier again. -/
theorem settled_of_rank_le (h : rank (.inline s) ≤ rank (s.canonicalNode sw)) :
    s.canonicalNode sw = .inline s.partsInOrder ∧
      (s.partsInOrder = s → NormalNode sw s) := by
  rw [canonicalNode] at h ⊢
  have hdistinct : s.Distinct := (distinct_or_rank_lt s).resolve_right fun hlt =>
    absurd (h.trans (rank_collapse_dropAlternatives_le sw
      (hereditary_lawful.every_distinctParts hs))) (not_le.2 hlt)
  rw [distinctParts_of_distinct hdistinct] at h ⊢
  have hkept := (kept_or_rank_lt sw s).resolve_right fun hlt =>
    absurd (h.trans (rank_collapse_dropNulls_le sw
      (hereditary_lawful.every_dropAlternatives hs sw))) (not_le.2 hlt)
  rw [dropAlternatives_of_kept sw hkept] at h ⊢
  have hnulls := (nulls_or_rank_lt sw s).resolve_right fun hlt =>
    absurd (h.trans (rank_collapse_unifyParts_le sw (hereditary_lawful.every_dropNulls hs sw)))
      (not_le.2 hlt)
  rw [dropNulls_of_nulls sw hnulls] at h ⊢
  obtain ⟨hrepeats, happart, hunified⟩ := (united_or_rank_lt hs).resolve_right fun hlt =>
    absurd (h.trans (rank_collapse_lift_le sw _)) (not_le.2 hlt)
  rw [hunified, ← rank_partsInOrder s] at h
  rw [hunified]
  generalize ht : s.partsInOrder = t at h ⊢
  have hpart := (part_or_rank_lt t).resolve_right fun hlt =>
    absurd (h.trans (rank_collapse_withType_le sw _)) (not_le.2 hlt)
  rw [lift_of_part hpart] at h ⊢
  obtain ⟨hstated, htyped⟩ := (stated_or_rank_lt t).resolve_right fun hlt =>
    absurd (h.trans (rank_collapse_le sw _)) (not_le.2 hlt)
  rw [htyped] at h ⊢
  obtain ⟨halias, hseveral, hcollapse⟩ := (collapse_or_rank_lt sw t).resolve_right fun hlt =>
    absurd h (not_le.2 hlt)
  refine ⟨hcollapse, fun hts => ?_⟩
  have hordered : inOrder s.allOf = s.allOf := by
    have hallOf : s.partsInOrder.allOf = s.allOf := by rw [ht, hts]
    exact hallOf
  rw [hts] at hpart hstated halias hseveral
  exact ⟨hdistinct, ⟨hkept, hnulls, hseveral⟩, ⟨hordered, hrepeats, happart⟩, hpart, hstated,
    halias⟩

end Fresh

end Node

/-! ## Trees -/

section Tree

variable {sw : Canonical.Switches}

/-- **The canonical form is no heavier** than the schema.

**Proof sketch.** Induction from the leaves to the root. The children are no heavier, and neither is
the node over them. -/
theorem rank_canonicalRef_le {r : SchemaRef} (hr : Every Lawful r) :
    rank (canonicalRef sw r) ≤ rank r := by
  induction r using ref_induction with
  | ref path => rw [canonicalRef_ref]
  | inline s ih =>
    rw [canonicalRef_inline]
    exact (rank_canonicalNode_le sw (hereditary_lawful.every_mapChildren sw hr)).trans
      (rank_mapChildren_le fun q hq => ih q hq (hr.children q hq))

lemma map_inline_inlines {rs : List SchemaRef} (h : references rs = []) :
    (inlines rs).map .inline = rs := by
  induction rs with
  | nil => rfl
  | cons r rs ih =>
    cases r with
    | ref path => simp [references, Referable.isRef, Referable.path?] at h
    | inline p => exact congrArg (.inline p :: ·) (ih h)

section InOrder

variable {f : SchemaRef → SchemaRef} (hf : ∀ path, f (.ref path) = .ref path)

include hf

lemma map_references (rs : List SchemaRef) : (references rs).map f = references rs := by
  refine (List.map_congr_left fun r hr => ?_).trans (List.map_id _)
  obtain ⟨-, path, rfl⟩ := mem_references.1 hr
  exact hf path

/-- Parts that are what becomes of them, with the references first, stay as they are.

**Proof sketch.** The references come first and stay. They are all the references there are
afterwards, so every inline part stays inline, and in its place. -/
lemma map_eq_self_of_inOrder {rs : List SchemaRef} (h : inOrder (rs.map f) = rs) :
    rs.map f = rs := by
  have hrefs : references rs = references (rs.map f) := by
    conv_lhs => rw [← h]
    rw [inOrder, references_append, references_references, references_map_inline, List.append_nil]
  obtain ⟨ps, hps⟩ : ∃ ps : List Schema, rs = references rs ++ ps.map .inline :=
    ⟨inlines (rs.map f), by rw [hrefs]; exact h.symm⟩
  have hmap : rs.map f = references rs ++ (ps.map .inline).map f := by
    conv_lhs => rw [hps]
    rw [List.map_append, map_references hf]
  have hnone : references ((ps.map .inline).map f) = [] := by
    rw [hmap, references_append, references_references] at hrefs
    exact List.append_right_eq_self.1 hrefs.symm
  have hinlines : inlines (rs.map f) = inlines ((ps.map .inline).map f) := by
    rw [hmap, inlines_append, inlines_references, List.nil_append]
  calc rs.map f = references rs ++ (ps.map .inline).map f := hmap
    _ = references (rs.map f) ++ (inlines (rs.map f)).map .inline := by
      rw [hinlines, map_inline_inlines hnone, ← hrefs]
    _ = rs := h

end InOrder

/-- **A schema that is its own canonical form** is in normal form.

**Proof sketch.** Neither the children nor the node over them gets lighter. So no step does anything
to the node but to put its references first, and there they are already. So the children stay as
they are, too. -/
theorem normalForm_of_canonicalRef {r : SchemaRef} (hr : Every Lawful r)
    (h : canonicalRef sw r = r) : NormalForm sw r := by
  induction r using ref_induction with
  | ref path => exact .ref path
  | inline s ih =>
    rw [canonicalRef_inline] at h
    have hfresh := hereditary_lawful.every_mapChildren sw hr
    have hrank : rank (.inline (s.mapChildren (canonicalRef sw))) ≤
        rank ((s.mapChildren (canonicalRef sw)).canonicalNode sw) := by
      rw [h]
      exact rank_mapChildren_le fun q hq => rank_canonicalRef_le (hr.children q hq)
    obtain ⟨hsettled, hnode⟩ := settled_of_rank_le sw hfresh hrank
    have hs : (s.mapChildren (canonicalRef sw)).partsInOrder = s :=
      Referable.inline.inj (hsettled.symm.trans h)
    have hallOf : s.allOf.map (canonicalRef sw) = s.allOf :=
      map_eq_self_of_inOrder (canonicalRef_ref sw) (congrArg Schema.allOf hs)
    have hordered : inOrder (s.mapChildren (canonicalRef sw)).allOf =
        (s.mapChildren (canonicalRef sw)).allOf := (congrArg Schema.allOf hs).trans hallOf.symm
    have hchildren : s.mapChildren (canonicalRef sw) = s :=
      (partsInOrder_eq_self hordered).symm.trans hs
    rw [hchildren] at hs hnode
    refine .inline (hnode hs) fun q hq => ih q hq (hr.children q hq) ?_
    have hmap := children_mapChildren (canonicalRef sw) s
    rw [hchildren] at hmap
    exact (List.map_inj_left.1 (hmap.symm.trans (List.map_id _).symm)) q hq

/-- **Exactly the schemas in normal form** are their own canonical forms. -/
theorem canonicalRef_eq_self_iff {r : SchemaRef} (hr : Every Lawful r) :
    canonicalRef sw r = r ↔ NormalForm sw r :=
  ⟨normalForm_of_canonicalRef hr, canonicalRef_of_normalForm⟩

end Tree

end Schema

end ApiLowering
