import ApiLowering.Proofs.Json.Merging
import ApiLowering.Proofs.Schema.ReadBack
import Mathlib.Data.Prod.Lex

/-!
# The rank of a schema

A pass that rearranges compositions comes to rest because every change lowers the rank: first the
number of parts and alternatives, where those of a part count more than those of the whole, and then
what a part says beside them, which counts more than what the whole says itself. Schemas outside of
compositions do not count, so that the rank of merged parts can be read off the lists they are
merged from.

## Main definitions

* `Schema.weight` — the weight of a schema, for the weight of a node, a part and an alternative.
* `Schema.mass` — how many parts and alternatives there are.
* `Schema.load` — how much is said beside them that a whole can take from its part.
* `Schema.rank` — mass first, load second.

## Main results

* `Schema.rank_mapChildren_le` — the rank does not grow where that of no child does.
* `Schema.mass_le_of_readNode?` — what is read back from a written schema has no more parts.
* `Schema.mass_mergeAll_lt` — what becomes of several parts weighs less than they do.
-/

namespace ApiLowering

namespace Schema

/-! ## Weights -/

section Weight

variable (own : Schema → Nat) (part alternative : Nat)

mutual

/-- The weight of a schema: what its node weighs itself, twice its parts and three times its
alternatives, where each of them has a weight of its own. -/
def weight : Schema → Nat
  | ⟨keywords, properties, items, additional, negated, allOf, oneOf, anyOf⟩ =>
    own ⟨keywords, properties, items, additional, negated, allOf, oneOf, anyOf⟩ +
      weightList part 2 allOf + weightList alternative 3 oneOf + weightList alternative 3 anyOf

/-- The weight of a schema or a reference, which weighs nothing. -/
def weightRef : SchemaRef → Nat
  | .ref _ => 0
  | .inline s => weight s

/-- The weight of a list, where each member has a weight of its own. -/
def weightList (base factor : Nat) : List SchemaRef → Nat
  | [] => 0
  | r :: rs => base + factor * weightRef r + weightList base factor rs

end

lemma weight_eq (s : Schema) :
    weight own part alternative s = own s + weightList own part alternative part 2 s.allOf +
      weightList own part alternative alternative 3 s.oneOf +
      weightList own part alternative alternative 3 s.anyOf := by
  obtain ⟨keywords, properties, items, additional, negated, allOf, oneOf, anyOf⟩ := s
  rw [weight]

@[simp] lemma weightRef_ref (path : String) : weightRef own part alternative (.ref path) = 0 := by
  rw [weightRef]

@[simp] lemma weightRef_inline (s : Schema) :
    weightRef own part alternative (.inline s) = weight own part alternative s := by
  rw [weightRef]

variable (base factor : Nat)

@[simp] lemma weightList_nil : weightList own part alternative base factor [] = 0 := by
  rw [weightList]

@[simp] lemma weightList_cons (r : SchemaRef) (rs : List SchemaRef) :
    weightList own part alternative base factor (r :: rs) =
      base + factor * weightRef own part alternative r +
        weightList own part alternative base factor rs := by
  rw [weightList]

@[simp] lemma weightList_append (rs qs : List SchemaRef) :
    weightList own part alternative base factor (rs ++ qs) =
      weightList own part alternative base factor rs +
        weightList own part alternative base factor qs := by
  induction rs with
  | nil => simp
  | cons r rs ih =>
    rw [List.cons_append, weightList_cons, weightList_cons, ih]
    omega

lemma weightList_perm {rs qs : List SchemaRef} (h : rs.Perm qs) :
    weightList own part alternative base factor rs =
      weightList own part alternative base factor qs := by
  induction h with
  | nil => rfl
  | cons r _ ih => rw [weightList_cons, weightList_cons, ih]
  | swap r q rs =>
    simp only [weightList_cons]
    omega
  | trans _ _ ih ih' => exact ih.trans ih'

lemma weightList_le_of_sublist {rs qs : List SchemaRef} (h : rs.Sublist qs) :
    weightList own part alternative base factor rs ≤
      weightList own part alternative base factor qs := by
  induction h with
  | slnil => exact Nat.le_refl _
  | cons r _ ih =>
    rw [weightList_cons]
    omega
  | cons_cons r _ ih =>
    rw [weightList_cons, weightList_cons]
    omega

/-- Where members have a weight, a list that loses some of them gets lighter. -/
lemma eq_or_weightList_lt_of_sublist {rs qs : List SchemaRef} (hbase : 0 < base)
    (h : rs.Sublist qs) :
    rs = qs ∨ weightList own part alternative base factor rs <
      weightList own part alternative base factor qs := by
  induction h with
  | slnil => exact .inl rfl
  | cons r h _ =>
    have hle := weightList_le_of_sublist own part alternative base factor h
    refine .inr ?_
    rw [weightList_cons]
    omega
  | cons_cons r _ ih =>
    refine ih.imp (fun h => by rw [h]) fun h => ?_
    rw [weightList_cons, weightList_cons]
    omega

end Weight

/-! ## Mass -/

/-- How many parts and alternatives there are, weighed by how deep they are. -/
def mass : SchemaRef → Nat := weightRef (fun _ => 1) 1 2

/-- The mass of a list of parts. -/
def partsMass : List SchemaRef → Nat := weightList (fun _ => 1) 1 2 1 2

/-- The mass of a list of alternatives. -/
def alternativesMass : List SchemaRef → Nat := weightList (fun _ => 1) 1 2 2 3

@[simp] lemma mass_ref (path : String) : mass (.ref path) = 0 := weightRef_ref _ _ _ path

lemma mass_inline (s : Schema) :
    mass (.inline s) =
      1 + partsMass s.allOf + alternativesMass s.oneOf + alternativesMass s.anyOf :=
  (weightRef_inline _ _ _ s).trans (weight_eq _ _ _ s)

@[simp] lemma partsMass_nil : partsMass [] = 0 := weightList_nil ..

@[simp] lemma partsMass_cons (r : SchemaRef) (rs : List SchemaRef) :
    partsMass (r :: rs) = 1 + 2 * mass r + partsMass rs := weightList_cons ..

@[simp] lemma partsMass_append (rs qs : List SchemaRef) :
    partsMass (rs ++ qs) = partsMass rs + partsMass qs := weightList_append ..

@[simp] lemma alternativesMass_nil : alternativesMass [] = 0 := weightList_nil ..

@[simp] lemma alternativesMass_cons (r : SchemaRef) (rs : List SchemaRef) :
    alternativesMass (r :: rs) = 2 + 3 * mass r + alternativesMass rs := weightList_cons ..

@[simp] lemma alternativesMass_append (rs qs : List SchemaRef) :
    alternativesMass (rs ++ qs) = alternativesMass rs + alternativesMass qs :=
  weightList_append ..

/-! ## Load -/

/-- One if there is a value. -/
def presence {α : Type} (o : Option α) : Nat := if o.isSome then 1 else 0

/-- The load of the type keyword: an empty list of types goes, and then an empty schema gets a type.
-/
def typesLoad : Option TypeSet → Nat
  | some (.several []) => 2
  | none => 1
  | _ => 0

/-- How many of the keywords are there that a whole can take from its part. -/
def liftedLoad (s : Schema) : Nat :=
  presence s.keywords.title + presence s.keywords.description + presence s.keywords.deprecated +
    presence s.keywords.nullable + presence s.keywords.defaultValue + presence s.keywords.sample +
    presence s.keywords.samples + presence s.keywords.externalDocs + presence s.keywords.readOnly +
    presence s.additional + presence s.negated

/-- What a schema says itself that its canonical form may drop, or that a whole may take from it. -/
def ownLoad (s : Schema) : Nat :=
  typesLoad s.keywords.types + s.keywords.required.length + liftedLoad s

/-- How much is said beside parts and alternatives, weighed by how deep it is. -/
def load : SchemaRef → Nat := weightRef ownLoad 0 0

/-- The load of a list of parts. -/
def partsLoad : List SchemaRef → Nat := weightList ownLoad 0 0 0 2

/-- The load of a list of alternatives. -/
def alternativesLoad : List SchemaRef → Nat := weightList ownLoad 0 0 0 3

lemma load_inline (s : Schema) :
    load (.inline s) =
      ownLoad s + partsLoad s.allOf + alternativesLoad s.oneOf + alternativesLoad s.anyOf :=
  (weightRef_inline _ _ _ s).trans (weight_eq _ _ _ s)

@[simp] lemma partsLoad_nil : partsLoad [] = 0 := weightList_nil ..

@[simp] lemma partsLoad_cons (r : SchemaRef) (rs : List SchemaRef) :
    partsLoad (r :: rs) = 2 * load r + partsLoad rs :=
  (weightList_cons ..).trans (congrArg (· + partsLoad rs) (Nat.zero_add _))

@[simp] lemma partsLoad_append (rs qs : List SchemaRef) :
    partsLoad (rs ++ qs) = partsLoad rs + partsLoad qs := weightList_append ..

@[simp] lemma alternativesLoad_nil : alternativesLoad [] = 0 := weightList_nil ..

@[simp] lemma alternativesLoad_cons (r : SchemaRef) (rs : List SchemaRef) :
    alternativesLoad (r :: rs) = 3 * load r + alternativesLoad rs :=
  (weightList_cons ..).trans (congrArg (· + alternativesLoad rs) (Nat.zero_add _))

/-! ## Rank -/

/-- Mass first, load second. -/
def rank (r : SchemaRef) : Nat ×ₗ Nat := toLex (mass r, load r)

lemma rank_lt_iff {r q : SchemaRef} :
    rank r < rank q ↔ mass r < mass q ∨ mass r = mass q ∧ load r < load q :=
  Prod.Lex.toLex_lt_toLex

lemma rank_le_iff {r q : SchemaRef} :
    rank r ≤ rank q ↔ mass r < mass q ∨ mass r = mass q ∧ load r ≤ load q :=
  Prod.Lex.toLex_le_toLex

lemma rank_lt_of_mass_lt {r q : SchemaRef} (h : mass r < mass q) : rank r < rank q :=
  rank_lt_iff.2 (.inl h)

section Children

variable {f : SchemaRef → SchemaRef}

lemma parts_map_le {rs : List SchemaRef} (h : ∀ r ∈ rs, rank (f r) ≤ rank r) :
    partsMass (rs.map f) < partsMass rs ∨
      partsMass (rs.map f) = partsMass rs ∧ partsLoad (rs.map f) ≤ partsLoad rs := by
  induction rs with
  | nil => simp
  | cons r rs ih =>
    have hr := rank_le_iff.1 (h r (by simp))
    have hrs := ih fun q hq => h q (List.mem_cons_of_mem _ hq)
    simp only [List.map_cons, partsMass_cons, partsLoad_cons]
    omega

lemma alternatives_map_le {rs : List SchemaRef} (h : ∀ r ∈ rs, rank (f r) ≤ rank r) :
    alternativesMass (rs.map f) < alternativesMass rs ∨
      alternativesMass (rs.map f) = alternativesMass rs ∧
        alternativesLoad (rs.map f) ≤ alternativesLoad rs := by
  induction rs with
  | nil => simp
  | cons r rs ih =>
    have hr := rank_le_iff.1 (h r (by simp))
    have hrs := ih fun q hq => h q (List.mem_cons_of_mem _ hq)
    simp only [List.map_cons, alternativesMass_cons, alternativesLoad_cons]
    omega

lemma ownLoad_mapChildren (f : SchemaRef → SchemaRef) (s : Schema) :
    ownLoad (s.mapChildren f) = ownLoad s := by
  have hadditional : presence (s.mapChildren f).additional = presence s.additional := by
    rw [mapChildren, presence, Option.isSome_map, presence]
  have hnegated : presence (s.mapChildren f).negated = presence s.negated := by
    rw [mapChildren, presence, Option.isSome_map, presence]
  rw [ownLoad, liftedLoad, hadditional, hnegated]
  rfl

/-- The rank does not grow where that of no child does. -/
theorem rank_mapChildren_le {s : Schema} (h : ∀ r ∈ s.children, rank (f r) ≤ rank r) :
    rank (.inline (s.mapChildren f)) ≤ rank (.inline s) := by
  have hparts := parts_map_le fun r (hr : r ∈ s.allOf) => h r (mem_children.2 (by simp [hr]))
  have honeOf := alternatives_map_le fun r (hr : r ∈ s.oneOf) =>
    h r (mem_children.2 (by simp [hr]))
  have hanyOf := alternatives_map_le fun r (hr : r ∈ s.anyOf) =>
    h r (mem_children.2 (by simp [hr]))
  rw [rank_le_iff, mass_inline, mass_inline, load_inline, load_inline, ownLoad_mapChildren]
  simp only [mapChildren]
  omega

end Children

/-! ## Reading back -/

/-- What is read back from a written list is no heavier if that holds of its members. -/
lemma weightList_le_of_read (base factor : Nat) {qs rs : List SchemaRef}
    (hmass : ∀ q ∈ qs, ∀ r, readNode? (Tree.ofJson (refJson q)) = some r → mass r ≤ mass q)
    (h : List.Forall₂ (fun x r => readNode? (Tree.ofJson x) = some r) (qs.map refJson) rs) :
    weightList (fun _ => 1) 1 2 base factor rs ≤ weightList (fun _ => 1) 1 2 base factor qs := by
  induction qs generalizing rs with
  | nil =>
    cases h
    exact Nat.le_refl _
  | cons q qs ih =>
    obtain ⟨r, rs, hr, hrs, rfl⟩ := List.forall₂_cons_left_iff.1 h
    have hle : mass r ≤ mass q := hmass q (by simp) r hr
    have hrest := ih (fun p hp => hmass p (List.mem_cons_of_mem _ hp)) hrs
    rw [weightList_cons, weightList_cons]
    exact Nat.add_le_add (Nat.add_le_add_left (Nat.mul_le_mul_left factor hle) base) hrest

/-- What is read back from a written schema has no more parts and alternatives. -/
theorem mass_le_of_readNode? {q : SchemaRef} (hq : Every Lawful q) :
    ∀ r, readNode? (Tree.ofJson (refJson q)) = some r → mass r ≤ mass q := by
  induction hq with
  | ref path =>
    intro r h
    rw [refJson, writeRef_ref, Reference.toJson, Json.object_eq] at h
    rcases readNode?_ofJson h with ⟨_, -, rfl⟩ | ⟨hpath, -⟩
    · simp
    · simp [Json.path?, Json.entered, Json.enter] at hpath
  | @inline s hs _ ih =>
    intro r h
    rw [refJson, writeRef_inline] at h
    rcases readNode?_ofJson h with ⟨_, -, rfl⟩ | ⟨-, t, rfl, ht⟩
    · simp
    · have hread (key : String) (hkey : key ∈ listNames) {rs : List SchemaRef} (base factor : Nat)
          (h : List.Forall₂ (fun x r => readNode? (Tree.ofJson x) = some r)
            ((s.write Reference.toJson).itemsAt key) rs) :
          weightList (fun _ => 1) 1 2 base factor rs ≤
            weightList (fun _ => 1) 1 2 base factor (s.listed key) := by
        rw [itemsAt_write_listed _ hs.fresh hkey] at h
        exact weightList_le_of_read base factor
          (fun q hq => ih q (mem_children_of_mem_listed hq)) h
      have hallOf := hread "allOf" (by decide) 1 2 ht.parts
      have honeOf := hread "oneOf" (by decide) 2 3 ht.oneOf
      have hanyOf := hread "anyOf" (by decide) 2 3 ht.anyOf
      rw [mass_inline, mass_inline]
      exact Nat.add_le_add (Nat.add_le_add (Nat.add_le_add_left hallOf 1) honeOf) hanyOf

/-! ## Merging -/

/-- The parts and alternatives of a value are some of those of schemas, as they are written. -/
def Gathers (v : Json) (ss : List Schema) : Prop :=
  ∀ key ∈ listNames, Json.ArrayAt key v ∧
    (v.itemsAt key).Sublist ((ss.flatMap (·.listed key)).map refJson)

/-- Merging schemas gathers their parts and alternatives. -/
lemma exists_gathers_foldl {ss : List Schema} (hss : ∀ s ∈ ss, s.keywords.Fresh)
    {es : List (String × Json)} {qs : List Schema} (hes : Gathers (.members es) qs) :
    ∃ fs, ss.foldl (fun acc s => Json.merge acc s.toJson) (.members es) = .members fs ∧
      Gathers (.members fs) (qs ++ ss) := by
  induction ss generalizing es qs with
  | nil => exact ⟨es, rfl, by rwa [List.append_nil]⟩
  | cons s ss ih =>
    have hs := hss s (by simp)
    obtain ⟨ms, hms, hincreasing⟩ := exists_increasing_write Reference.toJson s
    have hstep : Gathers (.members (Json.mergeMembers es ms)) (qs ++ [s]) := by
      intro key hkey
      obtain ⟨harray, hsublist⟩ := hes key hkey
      have hwritten : Json.ArrayAt key (.members ms) :=
        hms ▸ arrayAt_write_listed Reference.toJson hs hkey
      have hitems : (Json.members ms).itemsAt key = (s.listed key).map refJson :=
        hms ▸ itemsAt_write_listed Reference.toJson hs hkey
      refine ⟨Json.arrayAt_mergeMembers hincreasing.nodup harray hwritten, ?_⟩
      have h := Json.itemsAt_mergeMembers_sublist hincreasing.nodup harray hwritten
      rw [hitems] at h
      rw [List.flatMap_append, List.map_append, List.flatMap_singleton]
      exact h.trans (hsublist.append (List.Sublist.refl _))
    obtain ⟨fs, hfold, hfs⟩ := ih (fun t ht => hss t (List.mem_cons_of_mem _ ht)) hstep
    refine ⟨fs, ?_, by rwa [List.append_assoc] at hfs⟩
    rw [List.foldl_cons, toJson, hms, Json.merge_members]
    exact hfold

lemma partsMass_map_inline (ss : List Schema) :
    partsMass (ss.map .inline) = 3 * ss.length +
      2 * (partsMass (ss.flatMap (·.listed "allOf")) +
        alternativesMass (ss.flatMap (·.listed "oneOf")) +
        alternativesMass (ss.flatMap (·.listed "anyOf"))) := by
  induction ss with
  | nil => simp
  | cons s ss ih =>
    rw [List.map_cons, partsMass_cons, ih, mass_inline]
    simp only [List.flatMap_cons, partsMass_append, alternativesMass_append, List.length_cons]
    change _ = 3 * (ss.length + 1) + 2 * (partsMass s.allOf + _ + (alternativesMass s.oneOf + _) +
      (alternativesMass s.anyOf + _))
    omega

/-- What becomes of several parts weighs less than they do. -/
theorem mass_mergeAll_lt {ss : List Schema} (hlength : 1 < ss.length)
    (hss : ∀ s ∈ ss, Every Lawful (.inline s)) {r : SchemaRef}
    (h : mergeAll ss = some r) : partsMass [r] < partsMass (ss.map .inline) := by
  have hnil : Gathers (.members []) [] := by
    intro key _
    refine ⟨.inl rfl, ?_⟩
    simp [Json.itemsAt, Json.get?, Json.lookup]
  obtain ⟨fs, hfold, hfs⟩ := exists_gathers_foldl (fun s hs => (hss s hs).node.fresh) hnil
  rw [mergeAll, readRef?, hfold, Tree.settle?_ofJson, Option.bind_some] at h
  rw [partsMass_map_inline, partsMass_cons, partsMass_nil]
  rcases readNode?_ofJson h with ⟨_, -, rfl⟩ | ⟨-, t, rfl, ht⟩
  · rw [mass_ref]
    omega
  · have hread (key : String) (hkey : key ∈ listNames) {rs : List SchemaRef} (base factor : Nat)
        (h : List.Forall₂ (fun x r => readNode? (Tree.ofJson x) = some r)
          ((Json.members fs).itemsAt key) rs) :
        weightList (fun _ => 1) 1 2 base factor rs ≤
          weightList (fun _ => 1) 1 2 base factor (ss.flatMap (·.listed key)) := by
      obtain ⟨qs, hqs, hitems⟩ := List.sublist_map_iff.1 (hfs key hkey).2
      rw [hitems] at h
      refine (weightList_le_of_read base factor (fun q hq => ?_) h).trans
        (weightList_le_of_sublist _ _ _ base factor hqs)
      obtain ⟨s, hs, hqs'⟩ := List.mem_flatMap.1 (hqs.subset hq)
      exact mass_le_of_readNode? ((hss s hs).children q (mem_children_of_mem_listed hqs'))
    have hallOf : partsMass t.allOf ≤ partsMass (ss.flatMap (·.listed "allOf")) :=
      hread "allOf" (by decide) 1 2 ht.parts
    have honeOf : alternativesMass t.oneOf ≤ alternativesMass (ss.flatMap (·.listed "oneOf")) :=
      hread "oneOf" (by decide) 2 3 ht.oneOf
    have hanyOf : alternativesMass t.anyOf ≤ alternativesMass (ss.flatMap (·.listed "anyOf")) :=
      hread "anyOf" (by decide) 2 3 ht.anyOf
    rw [mass_inline]
    omega

end Schema

end ApiLowering
