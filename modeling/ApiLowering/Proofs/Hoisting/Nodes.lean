import ApiLowering.Proofs.Hoisting.Traces
import ApiLowering.Proofs.Schema.Sameness

/-!
# Schemas that differ in their children

Where two schemas differ in their children only, each place holds a child of either or of none. So
what brings the children back brings back the schema.

## Main results

* `Schema.SameNode.place` — what two such schemas hold in one place.
* `Schema.SameNode.gist_eq` — children with the gists of other ones make a schema with the gist of
  the other one.
-/

namespace ApiLowering

namespace Schema

/-! ## Pieces -/

/-- In one place there is nothing in either thing, or a pair of schemas. -/
def Paired (xs : List (SchemaRef × SchemaRef)) (o o' : Option SchemaRef) : Prop :=
  (o = none ∧ o' = none) ∨ ∃ r r', o = some r ∧ o' = some r' ∧ (r, r') ∈ xs

lemma Paired.mono {xs ys : List (SchemaRef × SchemaRef)} {o o' : Option SchemaRef}
    (h : Paired xs o o') (hsub : xs ⊆ ys) : Paired ys o o' :=
  h.imp_right fun ⟨r, r', hr, hr', hmem⟩ => ⟨r, r', hr, hr', hsub hmem⟩

lemma paired_find? {t t' : Table SchemaRef} (h : SameShape t t') (key : String) :
    Paired ((schemas t).zip (schemas t')) (t.find? key) (t'.find? key) := by
  obtain ⟨es⟩ := t
  obtain ⟨es'⟩ := t'
  rw [schemas_table, schemas_table]
  induction es generalizing es' with
  | nil =>
    cases es' with
    | nil => exact .inl ⟨rfl, rfl⟩
    | cons e' es' => simp [SameShape, mapSchemas, Table.map] at h
  | cons e es ih =>
    cases es' with
    | nil => simp [SameShape, mapSchemas, Table.map] at h
    | cons e' es' =>
      obtain ⟨k, r⟩ := e
      obtain ⟨k', r'⟩ := e'
      simp only [SameShape, mapSchemas, Table.map, List.map_cons, Table.mk.injEq, List.cons.injEq,
        Prod.mk.injEq, and_true] at h
      obtain ⟨rfl, hrest⟩ := h
      by_cases hkey : k = key
      · refine .inr ⟨r, r', ?_, ?_, ?_⟩
        · simp [Table.find?, Table.lookup, hkey]
        · simp [Table.find?, Table.lookup, hkey]
        · simp [Table.values]
      · have hpair := ih es' (congrArg Table.mk hrest)
        simp only [Table.find?, Table.lookup, hkey, if_false]
        exact hpair.mono (List.subset_cons_self _ _)

lemma paired_getElem? {rs rs' : List SchemaRef} (h : SameShape rs rs') (i : Nat) :
    Paired ((schemas rs).zip (schemas rs')) rs[i]? rs'[i]? := by
  have hlength := h.length_eq
  rw [schemas_list, schemas_list] at hlength ⊢
  by_cases hi : i < rs.length
  · have hzip : i < (rs.zip rs').length := by
      rw [List.length_zip, ← hlength, Nat.min_self]
      exact hi
    refine .inr ⟨rs[i], rs'[i], List.getElem?_eq_getElem hi, by simp, ?_⟩
    have hmem := List.getElem_mem hzip
    rwa [List.getElem_zip] at hmem
  · refine .inl ⟨by simpa using hi, ?_⟩
    rw [List.getElem?_eq_none_iff]
    omega

lemma paired_option {o o' : Option SchemaRef} (h : SameShape o o') :
    Paired ((schemas o).zip (schemas o')) o o' := by
  cases o with
  | none =>
    cases o' with
    | none => exact .inl ⟨rfl, rfl⟩
    | some r' => cases h
  | some r =>
    cases o' with
    | none => cases h
    | some r' => exact .inr ⟨r, r', rfl, rfl, List.mem_singleton_self _⟩

lemma paired_additional {o o' : Option (Additional SchemaRef)} (h : SameShape o o') :
    Paired ((schemas o).zip (schemas o')) (o.bind Additional.values?)
      (o'.bind Additional.values?) := by
  rcases o with - | ⟨b⟩ | ⟨r⟩ <;> rcases o' with - | ⟨b'⟩ | ⟨r'⟩ <;> try cases h
  · exact .inl ⟨rfl, rfl⟩
  · exact .inl ⟨rfl, rfl⟩
  · exact .inr ⟨r, r', rfl, rfl, List.mem_singleton_self _⟩

/-! ## Nodes -/

namespace SameNode

variable {s t : Schema} (h : s.SameNode t)

include h

lemma pieces : SameShape s.properties t.properties ∧ SameShape s.allOf t.allOf ∧
    SameShape s.oneOf t.oneOf ∧ SameShape s.anyOf t.anyOf ∧ SameShape s.items t.items ∧
    SameShape s.additional t.additional ∧ SameShape s.negated t.negated := by
  have hfields := h.fields
  simp only [SameShape, Schema.fields, mapSchemas, Prod.mk.injEq] at hfields
  exact hfields

lemma keys_eq : t.properties.keys = s.properties.keys := by
  have hkeys := congrArg Table.keys h.pieces.1
  simpa only [mapSchemas, Table.keys_map] using hkeys.symm

/-! The kinds of children are the same, and so is all that is decided by these and the keywords. -/

lemma isArray_eq : t.isArray = s.isArray := by
  have hitems := congrArg Option.isSome h.pieces.2.2.2.2.1
  simp only [mapSchemas, Option.isSome_map] at hitems
  rw [isArray, isArray, isType, isType, primaryType, primaryType, h.keywords, hitems]

lemma isEmpty_eq : t.properties.isEmpty = s.properties.isEmpty ∧
    t.oneOf.isEmpty = s.oneOf.isEmpty ∧ t.anyOf.isEmpty = s.anyOf.isEmpty := by
  obtain ⟨hproperties, -, honeOf, hanyOf, -⟩ := h.pieces
  have hlist {rs qs : List SchemaRef} (hrs : SameShape rs qs) : qs.isEmpty = rs.isEmpty := by
    have hempty := congrArg List.isEmpty hrs
    simpa only [mapSchemas, List.isEmpty_map] using hempty.symm
  refine ⟨?_, hlist honeOf, hlist hanyOf⟩
  have hempty := congrArg Table.isEmpty hproperties
  simpa only [mapSchemas, Table.isEmpty_map] using hempty.symm

lemma isComposed_eq : t.isComposed = s.isComposed := by
  have hallOf := congrArg List.isEmpty h.pieces.2.1
  simp only [mapSchemas, List.isEmpty_map] at hallOf
  rw [isComposed, isComposed, hallOf, h.isEmpty_eq.2.1, h.isEmpty_eq.2.2]

lemma isObjectLike_eq : t.isObjectLike = s.isObjectLike := by
  rw [isObjectLike, isObjectLike, h.isComposed_eq, h.isEmpty_eq.1, h.keywords]

lemma isMap_eq : t.isMap = s.isMap := by
  have hadditional := h.pieces.2.2.2.2.2.1
  rw [isMap, isMap, h.isComposed_eq, h.isEmpty_eq.1]
  generalize s.additional = o at hadditional
  generalize t.additional = o' at hadditional
  rcases o with - | ⟨b⟩ | ⟨r⟩ <;> rcases o' with - | ⟨b'⟩ | ⟨r'⟩ <;> cases hadditional <;> rfl

lemma lawful (hs : s.Lawful) : t.Lawful :=
  ⟨h.keywords ▸ hs.fresh, h.keys_eq ▸ hs.distinct⟩

lemma ownGist_eq : t.ownGist = s.ownGist := by
  have hadditional := h.pieces.2.2.2.2.2.1
  have hallowed : t.additional.bind Additional.allowed? =
      s.additional.bind Additional.allowed? := by
    generalize s.additional = o at hadditional
    generalize t.additional = o' at hadditional
    rcases o with - | ⟨b⟩ | ⟨r⟩ <;> rcases o' with - | ⟨b'⟩ | ⟨r'⟩ <;> try cases hadditional
    all_goals rfl
  rw [ownGist, ownGist, h.keywords, hallowed]

/-- What the schemas hold in one place. -/
theorem place (p : Place) :
    Paired ((schemas s.fields).zip (schemas t.fields)) (s.child? p) (t.child? p) := by
  obtain ⟨hproperties, hallOf, honeOf, hanyOf, hitems, hadditional, hnegated⟩ := h.pieces
  have hzip : (schemas s.fields).zip (schemas t.fields) =
      (schemas s.properties).zip (schemas t.properties) ++
        ((schemas s.allOf).zip (schemas t.allOf) ++ ((schemas s.oneOf).zip (schemas t.oneOf) ++
          ((schemas s.anyOf).zip (schemas t.anyOf) ++ ((schemas s.items).zip (schemas t.items) ++
            ((schemas s.additional).zip (schemas t.additional) ++
              (schemas s.negated).zip (schemas t.negated)))))) := by
    rw [← List.zip_append hadditional.length_eq, ← List.zip_append hitems.length_eq,
      ← List.zip_append hanyOf.length_eq, ← List.zip_append honeOf.length_eq,
      ← List.zip_append hallOf.length_eq, ← List.zip_append hproperties.length_eq]
    rfl
  rw [hzip]
  cases p with
  | property key =>
    exact (paired_find? hproperties key).mono fun x hx => by simp [hx]
  | items => exact (paired_option hitems).mono fun x hx => by simp [hx]
  | values => exact (paired_additional hadditional).mono fun x hx => by simp [hx]
  | negated => exact (paired_option hnegated).mono fun x hx => by simp [hx]
  | allOf i => exact (paired_getElem? hallOf i).mono fun x hx => by simp [hx]
  | oneOf i => exact (paired_getElem? honeOf i).mono fun x hx => by simp [hx]
  | anyOf i => exact (paired_getElem? hanyOf i).mono fun x hx => by simp [hx]

omit h in
lemma mem_children_of_mem_zip {x : SchemaRef × SchemaRef}
    (hx : x ∈ (schemas s.fields).zip (schemas t.fields)) : x.1 ∈ s.children ∧ x.2 ∈ t.children :=
  (List.of_mem_zip hx).imp mem_schemas_fields.1 mem_schemas_fields.1

/-- Every child comes from a child. -/
lemma exists_mem_zip {r : SchemaRef} (hr : r ∈ t.children) :
    ∃ q, (q, r) ∈ (schemas s.fields).zip (schemas t.fields) :=
  h.fields.exists_mem_zip (mem_schemas_fields.2 hr)

/-- **Children with the gists of other ones** make a schema with the gist of the other one. -/
theorem gist_eq (hs : s.Lawful) {f : SchemaRef → SchemaRef}
    (hf : ∀ x ∈ (schemas s.fields).zip (schemas t.fields), gist (f x.2) = gist x.1) :
    gist (.inline (t.mapChildren f)) = gist (.inline s) := by
  refine (gist_inline_eq_iff ((h.lawful hs).mapChildren f) hs).2 ⟨?_, fun p => ?_⟩
  · rw [ownGist_mapChildren, h.ownGist_eq]
  · rw [child?_mapChildren]
    rcases h.place p with ⟨hs', ht'⟩ | ⟨r, r', hr, hr', hmem⟩
    · rw [hs', ht']
      rfl
    · rw [hr, hr', Option.map_some, Option.map_some, Option.map_some, hf _ hmem]

end SameNode

end Schema

end ApiLowering
