import ApiLowering.Proofs.Codec.Returns

/-!
# Merging what was written

Schemas are merged as values. What comes out is once more what is written for a schema, though not
always for one that readers return: next to the keywords of a schema there may be the `$ref` of a
reference. So what is merged from any schemas can be read.

Keyword by keyword, a scalar of the later schema replaces that of the earlier one, lists are united,
and objects are merged in turn.

## Main definitions

* `Codec.Merges`, `Field.Merges` — values are merged as things are, members as fields are.
* `mergeLists`, `TypeSet.merge`, `Discriminator.merge`, `Keywords.merge` — the keywords without
  schemas of two merged schemas.

## Main results

* `Layout.lookup_members_merge` — the fields of two records are merged one by one.
* `Schema.exists_merge` — what is merged from written schemas is written for a schema.
-/

namespace ApiLowering

/-! ## Codecs -/

/-- Values that are written for two things are merged as the things are. -/
structure Codec.Merges {α : Type} (c : Codec α) (f : α → α → α) : Prop where
  write_eq {x y : α} : c.Sound .tidy x → c.Sound .tidy y →
    c.write (f x y) = (c.write x).merge (c.write y)
  tidy {x y : α} : c.Sound .tidy x → c.Sound .tidy y → c.Sound .tidy (f x y)

/-- The items of a list, then those of another that are not written like one before them. Nothing
is left out of the other list if the first one is empty, because then it is not written. -/
def mergeLists {α : Type} (write : α → Json) (xs ys : List α) : List α :=
  if xs = [] then ys else addNewBy (fun x y => (write x).same (write y)) xs ys

lemma mem_mergeLists {α : Type} {write : α → Json} {xs ys : List α} {x : α}
    (h : x ∈ mergeLists write xs ys) : x ∈ xs ∨ x ∈ ys := by
  rw [mergeLists] at h
  split at h
  · exact .inr h
  · exact mem_addNewBy h

lemma Json.lookup_listMember_merge {α : Type} (name : String) (write : α → Json)
    (xs ys : List α) : lookup name (listMember name (mergeLists write xs ys) write) =
      mergeOption (lookup name (listMember name xs write))
        (lookup name (listMember name ys write)) := by
  simp only [lookup_listMember, true_and]
  by_cases hxs : xs = []
  · rw [mergeLists, if_pos hxs, if_neg (not_not.2 hxs), mergeOption_none_left]
  · have hne : addNewBy (fun x y => (write x).same (write y)) xs ys ≠ [] := by
      obtain ⟨x, hx⟩ := List.exists_mem_of_ne_nil _ hxs
      exact List.ne_nil_of_mem (mem_addNewBy_of_mem hx)
    rw [mergeLists, if_neg hxs, if_pos hne, if_pos hxs]
    by_cases hys : ys = []
    · subst hys
      rfl
    · rw [if_pos hys, map_addNewBy, mergeOption, merge_array]

namespace Codec

variable {α : Type} {c : Codec α}

/-- Of two scalars the later one stays. -/
lemma merges_scalar (h : ∀ x, (c.write x).isScalar = true) : c.Merges fun _ y => y :=
  ⟨fun _ _ => (Json.merge_of_isScalar (h _)).symm, fun _ hy => hy⟩

lemma merges_value : value.Merges Json.merge :=
  ⟨fun _ _ => rfl, fun hv hw hk => (hv hk).merge (hw hk)⟩

end Codec

/-- The type keyword of two merged schemas. -/
def TypeSet.merge : TypeSet → TypeSet → TypeSet
  | .several ts, .several us =>
    .several (addNewBy (fun t u => (Json.string t.text).same (.string u.text)) ts us)
  | _, t => t

lemma Codec.merges_typeSet : typeSet.Merges TypeSet.merge := by
  refine ⟨fun {x y} _ _ => ?_, fun _ _ => trivial⟩
  change (TypeSet.merge x y).toJson = x.toJson.merge y.toJson
  cases y with
  | one u =>
    rw [Json.merge_of_isScalar rfl]
    cases x <;> rfl
  | several us =>
    cases x with
    | one t => rfl
    | several ts =>
      simp only [TypeSet.merge, TypeSet.toJson, Json.ofStrings, List.map_map, Json.merge_array]
      exact congrArg Json.array (map_addNewBy _ _ _ _)

/-! ## Tables -/

namespace Table

variable {α : Type} (write : α → Json) {P : α → Prop}

/-- An object whose values are written for things is written for a table of such things. -/
lemma exists_of_members {es : List (String × Json)} (hes : Json.Increasing es)
    (h : ∀ e ∈ es, ∃ x, P x ∧ write x = e.2) :
    ∃ t : Table α, t.keys = es.map Prod.fst ∧ (∀ x ∈ t.values, P x) ∧
      Json.ofTable t write = .members es := by
  obtain ⟨ds, hds, hP⟩ : ∃ ds : List (String × α),
      (ds.map fun d => (d.1, write d.2)) = es ∧ ∀ d ∈ ds, P d.2 := by
    clear hes
    induction es with
    | nil => exact ⟨[], rfl, List.forall_mem_nil _⟩
    | cons e es ih =>
      obtain ⟨⟨x, hx, hxe⟩, hes⟩ := List.forall_mem_cons.1 h
      obtain ⟨ds, hds, hP⟩ := ih hes
      exact ⟨(e.1, x) :: ds, by rw [List.map_cons, hds, hxe], List.forall_mem_cons.2 ⟨hx, hP⟩⟩
  refine ⟨⟨ds⟩, ?_, List.forall_mem_map.2 hP, ?_⟩
  · rw [← hds, List.map_map]
    rfl
  · rw [Json.ofTable, hds, Json.object_eq, Json.entered_of_increasing hes]

/-- A table is written as an object whose values are written for its values. -/
lemma exists_members {t : Table α} (ht : t.keys.Nodup) :
    ∃ es, Json.ofTable t write = .members es ∧ Json.Increasing es ∧
      (∀ key, key ∈ es.map Prod.fst ↔ key ∈ t.keys) ∧ ∀ e ∈ es, ∃ x ∈ t.values, write x = e.2 := by
  refine ⟨_, Json.ofTable_eq write ht, ?_, fun key => ?_, fun e he => ?_⟩
  · exact List.pairwise_map.2 (List.pairwise_map.1 (pairwise_keys_sortByKey ht))
  · change key ∈ (t.sortByKey.map write).keys ↔ key ∈ t.keys
    rw [keys_map]
    exact (t.entries_sortByKey_perm.map Prod.fst).mem_iff
  · obtain ⟨d, hd, rfl⟩ := List.mem_map.1 he
    exact ⟨d.2, List.mem_map_of_mem (t.entries_sortByKey_perm.mem_iff.1 hd), rfl⟩

/-- Two written tables are merged to a written table if the values that both have are. -/
lemma exists_merge {s t : Table α} (hs : s.keys.Nodup) (ht : t.keys.Nodup)
    (hsP : ∀ x ∈ s.values, P x) (htP : ∀ y ∈ t.values, P y)
    (h : ∀ x ∈ s.values, ∀ y ∈ t.values, ∃ z, P z ∧ write z = (write x).merge (write y)) :
    ∃ u : Table α, u.keys.Nodup ∧ (∀ key, key ∈ u.keys ↔ key ∈ s.keys ∨ key ∈ t.keys) ∧
      (∀ z ∈ u.values, P z) ∧
      Json.ofTable u write = (Json.ofTable s write).merge (Json.ofTable t write) := by
  obtain ⟨es, hes, hincreasing, hkeys, hvalues⟩ := exists_members write hs
  obtain ⟨fs, hfs, hincreasing', hkeys', hvalues'⟩ := exists_members write ht
  have hmerged : Json.Increasing (Json.mergeMembers es fs) :=
    Json.increasing_mergeMembers hincreasing
  obtain ⟨u, hu, huP, huw⟩ := exists_of_members write (P := P) hmerged fun e he => by
    rcases Json.mem_mergeMembers hincreasing hincreasing' he with he | he | ⟨v, w, hv, hw, heq⟩
    · obtain ⟨x, hx, hxe⟩ := hvalues e he
      exact ⟨x, hsP x hx, hxe⟩
    · obtain ⟨y, hy, hye⟩ := hvalues' e he
      exact ⟨y, htP y hy, hye⟩
    · obtain ⟨x, hx, rfl⟩ := hvalues _ hv
      obtain ⟨y, hy, rfl⟩ := hvalues' _ hw
      obtain ⟨z, hz, hzw⟩ := h x hx y hy
      exact ⟨z, hz, hzw.trans heq.symm⟩
  refine ⟨u, hu ▸ hmerged.nodup, fun key => ?_, huP, ?_⟩
  · rw [hu, Json.mem_keys_mergeMembers, hkeys, hkeys']
  · rw [huw, hes, hfs, Json.merge_members]

end Table

/-- Of two tables of scalars the later one replaces what is under the same keys. -/
lemma Codec.merges_table {α : Type} {c : Codec α} (h : ∀ x, (c.write x).isScalar = true) :
    c.table.Merges fun s t => s.insertAll t.entries := by
  refine ⟨fun {s t} hs ht => ?_, fun {s t} hs ht => ⟨fun hk => ?_, fun v hv => ?_⟩⟩
  · have hst : (s.insertAll t.entries).keys.Nodup := Table.nodup_keys_insertAll (hs.1 rfl)
    obtain ⟨es, hes, hincreasing, -⟩ := Table.exists_members c.write (hs.1 rfl)
    obtain ⟨fs, hfs, hincreasing', -⟩ := Table.exists_members c.write (ht.1 rfl)
    obtain ⟨gs, hgs, hincreasing'', -⟩ := Table.exists_members c.write hst
    simp only [table_write, hes, hfs, hgs]
    refine Json.members_eq_merge hincreasing hincreasing' hincreasing'' fun key => ?_
    have hs' := Json.get?_ofTable c.write (hs.1 rfl) key
    have ht' := Json.get?_ofTable c.write (ht.1 rfl) key
    have hst' := Json.get?_ofTable c.write hst key
    rw [hes, Json.get?] at hs'
    rw [hfs, Json.get?] at ht'
    rw [hgs, Json.get?, Table.find?_insertAll (ht.1 rfl)] at hst'
    rw [hs', ht', hst']
    change ((t.find? key).or (s.find? key)).map c.write = _
    cases s.find? key <;> cases t.find? key <;>
      simp [Json.mergeOption, Json.merge_of_isScalar, h]
  · exact Table.nodup_keys_insertAll (hs.1 hk)
  · obtain ⟨e, he, rfl⟩ := List.mem_map.1 hv
    rcases Table.mem_of_mem_insertAll he with he | he
    · exact hs.2 _ (List.mem_map_of_mem he)
    · exact ht.2 _ (List.mem_map_of_mem he)

/-! ## Records -/

/-- The member of a field of two records is merged as the records are. -/
def Field.Merges {α : Type} (F : Field α) (f : α → α → α) : Prop :=
  ∀ ⦃x y : α⦄, F.Sound .tidy x → F.Sound .tidy y → F.Sound .tidy (f x y) ∧
    Json.lookup F.name (F.members (f x y)) =
      Json.mergeOption (Json.lookup F.name (F.members x)) (Json.lookup F.name (F.members y))

namespace Field

variable {α β : Type} {name : String} {c : Codec β} {f : α → α → α}

lemma merges_required {get : α → β} {g : β → β → β} (hc : c.Merges g)
    (hget : ∀ x y, get (f x y) = g (get x) (get y)) : (required name c get).Merges f := by
  intro x y hx hy
  refine ⟨?_, ?_⟩
  · rw [sound_required, hget]
    exact hc.tidy hx hy
  · change Json.lookup name [(name, c.write (get (f x y)))] = Json.mergeOption
      (Json.lookup name [(name, c.write (get x))]) (Json.lookup name [(name, c.write (get y))])
    simp only [Json.lookup, if_true, Json.mergeOption, hget, hc.write_eq hx hy]

lemma merges_optional {get : α → Option β} {g : β → β → β} (hc : c.Merges g)
    (hget : ∀ x y, get (f x y) = (get x).merge g (get y)) :
    (optional name c get).Merges f := by
  intro x y hx hy
  rw [sound_optional] at hx hy
  change (∀ v ∈ get (f x y), c.Sound .tidy v ∧ _) ∧
    Json.lookup name (Json.member? name (get (f x y)) c.write) = Json.mergeOption
      (Json.lookup name (Json.member? name (get x) c.write))
      (Json.lookup name (Json.member? name (get y) c.write))
  rw [Json.lookup_member?, Json.lookup_member?, Json.lookup_member?, if_pos rfl, if_pos rfl,
    if_pos rfl, hget]
  cases hv : get x with
  | none =>
    rw [Option.merge_none_left, Option.map_none, Json.mergeOption_none_left]
    exact ⟨hy, rfl⟩
  | some v =>
    cases hw : get y with
    | none =>
      rw [Option.merge_none_right, Option.map_none, Json.mergeOption_none_right]
      exact ⟨hv ▸ hx, rfl⟩
    | some w =>
      obtain ⟨hv, -⟩ := hx v hv
      obtain ⟨hw, hnull⟩ := hy w hw
      rw [Option.merge_some_some, Option.map_some, hc.write_eq hv hw]
      refine ⟨fun u hu => ?_, rfl⟩
      obtain rfl := Option.mem_some.1 hu
      exact ⟨hc.tidy hv hw, fun hk => hc.write_eq hv hw ▸ Json.merge_ne_null (hnull hk)⟩

/-- Of two scalars the later one stays. -/
lemma merges_last {get : α → Option β} (hc : ∀ v, (c.write v).isScalar = true)
    (hget : ∀ x y, get (f x y) = (get y <|> get x)) : (optional name c get).Merges f := by
  refine merges_optional (Codec.merges_scalar hc) fun x y => ?_
  rw [hget]
  cases get x <;> cases get y <;> rfl

lemma merges_list {get : α → List β}
    (hget : ∀ x y, get (f x y) = mergeLists c.write (get x) (get y)) :
    (list name c get).Merges f := by
  intro x y hx hy
  rw [sound_list] at hx hy
  change (∀ v ∈ get (f x y), c.Sound .tidy v) ∧ _
  simp only [members_list, hget]
  exact ⟨fun v hv => (mem_mergeLists hv).elim (hx v) (hy v),
    Json.lookup_listMember_merge name c.write (get x) (get y)⟩

lemma merges_table {get : α → Table β} (hc : ∀ v, (c.write v).isScalar = true)
    (hget : ∀ x y, get (f x y) = (get x).insertAll (get y).entries) :
    (table name c get).Merges f := by
  intro x y hx hy
  rw [sound_table] at hx hy
  have htable := Codec.merges_table hc
  change c.table.Sound .tidy (get (f x y)) ∧ _
  simp only [members_table, hget]
  refine ⟨htable.tidy hx hy, ?_⟩
  change Json.lookup name _ = Json.mergeOption (Json.lookup name _) (Json.lookup name _)
  simp only [Json.lookup_tableMember, true_and]
  cases hs : (get x).isEmpty with
  | true =>
    have hnone : get x = {} := congrArg Table.mk (List.isEmpty_iff.1 hs)
    have hsame : (get x).insertAll (get y).entries = get y := by
      rw [hnone]
      exact Table.ofList_of_nodup (hy.1 rfl)
    rw [hsame, if_neg (show ¬true = false by decide), Json.mergeOption_none_left]
  | false =>
    have hne : ((get x).insertAll (get y).entries).isEmpty = false := by
      rw [Table.isEmpty, List.isEmpty_eq_false_iff_exists_mem] at hs ⊢
      obtain ⟨e, he⟩ := hs
      have hkey : e.1 ∈ ((get x).insertAll (get y).entries).keys :=
        Table.mem_keys_insertAll.2 (.inl (List.mem_map_of_mem he))
      obtain ⟨d, hd, -⟩ := List.mem_map.1 hkey
      exact ⟨d, hd⟩
    rw [if_pos hne, if_pos rfl]
    cases ht : (get y).isEmpty with
    | true =>
      have hnone : (get y).entries = [] := List.isEmpty_iff.1 ht
      rw [hnone, if_neg (show ¬true = false by decide), Json.mergeOption_none_right]
      rfl
    | false =>
      rw [if_pos rfl, Json.mergeOption]
      exact congrArg some (htable.write_eq hx hy)

end Field

namespace Layout

variable {α : Type} {l : Layout α} {f : α → α → α} {x y : α}

/-- The fields of two records are merged one by one. -/
lemma lookup_members_merge (h : ∀ F ∈ l.fields, F.Merges f) (hx : l.Sound .tidy x)
    (hy : l.Sound .tidy y) (key : String) : Json.lookup key (l.members (f x y)) =
      Json.mergeOption (Json.lookup key (l.members x)) (Json.lookup key (l.members y)) := by
  by_cases hkey : key ∈ l.fields.map Field.name
  · obtain ⟨F, hF, rfl⟩ := List.mem_map.1 hkey
    simp only [members, lookup_flatMap l.distinct hF]
    exact (h F hF (hx F hF) (hy F hF)).2
  · have hnone (z : α) : Json.lookup key (l.members z) = none :=
      Json.lookup_eq_none_iff.2 fun hmem => hkey ((l.keys_sublist z).subset hmem)
    rw [hnone, hnone, hnone]
    rfl

lemma sound_merge (h : ∀ F ∈ l.fields, F.Merges f) (hx : l.Sound .tidy x)
    (hy : l.Sound .tidy y) : l.Sound .tidy (f x y) :=
  fun F hF => (h F hF (hx F hF) (hy F hF)).1

end Layout

/-- The discriminator of two merged schemas. -/
def Discriminator.merge (d e : Discriminator) : Discriminator where
  propertyName := e.propertyName
  mapping := d.mapping.insertAll e.mapping.entries

lemma Codec.merges_discriminator : discriminator.Merges Discriminator.merge := by
  have hfields : ∀ F ∈ Discriminator.layout.fields, F.Merges Discriminator.merge := by
    rw [Discriminator.layout, List.forall_mem_cons, List.forall_mem_singleton]
    exact ⟨Field.merges_required (Codec.merges_scalar fun _ => rfl) fun _ _ => rfl,
      Field.merges_table (fun _ => rfl) fun _ _ => rfl⟩
  have hwrite (d : Discriminator) :
      discriminator.write d = .members (Json.entered (Discriminator.layout.members d)) := by
    rw [← Json.object_eq]
    simp [discriminator_write, Discriminator.toJson, Layout.members, Discriminator.layout]
  refine ⟨fun {d e} hd he => ?_, Layout.sound_merge hfields⟩
  rw [hwrite, hwrite, hwrite]
  refine Json.members_eq_merge (Json.increasing_entered _) (Json.increasing_entered _)
    (Json.increasing_entered _) fun key => ?_
  simp only [Json.lookup_entered_of_nodup key (Discriminator.layout.nodup_members _)]
  exact Layout.lookup_members_merge hfields hd he key

/-! ## Keywords without schemas -/

namespace Keywords

/-- The keywords without schemas of two merged schemas. -/
def merge (k l : Keywords) : Keywords where
  types := k.types.merge TypeSet.merge l.types
  format := l.format <|> k.format
  title := l.title <|> k.title
  description := l.description <|> k.description
  defaultValue := k.defaultValue.merge Json.merge l.defaultValue
  nullable := l.nullable <|> k.nullable
  deprecated := l.deprecated <|> k.deprecated
  required := mergeLists .string k.required l.required
  discriminator := k.discriminator.merge Discriminator.merge l.discriminator
  enumValues := mergeLists id k.enumValues l.enumValues
  minimum := l.minimum <|> k.minimum
  maximum := l.maximum <|> k.maximum
  exclusiveMinimum := k.exclusiveMinimum.merge Json.merge l.exclusiveMinimum
  exclusiveMaximum := k.exclusiveMaximum.merge Json.merge l.exclusiveMaximum
  minLength := l.minLength <|> k.minLength
  maxLength := l.maxLength <|> k.maxLength
  pattern := l.pattern <|> k.pattern
  minItems := l.minItems <|> k.minItems
  maxItems := l.maxItems <|> k.maxItems
  uniqueItems := l.uniqueItems <|> k.uniqueItems
  readOnly := l.readOnly <|> k.readOnly
  writeOnly := l.writeOnly <|> k.writeOnly
  constValue := k.constValue.merge Json.merge l.constValue
  sample := k.sample.merge Json.merge l.sample
  samples := k.samples.merge Json.merge l.samples
  externalDocs := k.externalDocs.merge Json.merge l.externalDocs
  extensions := ⟨Json.mergeMembers (Json.entered k.extensions.entries) l.extensions.entries⟩

/-- Each keyword is merged by the law of its kind. -/
lemma merges_fields : ∀ F ∈ layout.fields, F.Merges merge := by
  simp only [layout, List.forall_mem_cons]
  and_intros <;> first
    | exact Field.merges_last (fun _ => rfl) fun _ _ => rfl
    | exact Field.merges_optional Codec.merges_value fun _ _ => rfl
    | exact Field.merges_optional Codec.merges_typeSet fun _ _ => rfl
    | exact Field.merges_optional Codec.merges_discriminator fun _ _ => rfl
    | exact Field.merges_list fun _ _ => rfl
    | exact List.forall_mem_nil _

variable {k l : Keywords}

lemma lookup_extensions_merge (hl : l.extensions.keys.Nodup) (hk : k.extensions.keys.Nodup)
    (key : String) : Json.lookup key (k.merge l).extensions.entries =
      Json.mergeOption (Json.lookup key k.extensions.entries)
        (Json.lookup key l.extensions.entries) := by
  rw [merge, Json.lookup_mergeMembers key hl, Json.lookup_entered_of_nodup key hk]

/-- The unknown keywords of two merged schemas are such as readers return them. -/
lemma tidy_extensions_merge {names : List String} (hk : Extensions.Tidy names k.extensions)
    (hl : Extensions.Tidy names l.extensions) :
    Extensions.Tidy names (k.merge l).extensions where
  distinct := (Json.increasing_mergeMembers (Json.increasing_entered _)).nodup
  fresh e he := by
    have hmem : e.1 ∈ (k.merge l).extensions.keys := List.mem_map_of_mem he
    rw [merge, Table.keys, Json.mem_keys_mergeMembers, Json.mem_keys_entered] at hmem
    rcases hmem with hmem | hmem
    · obtain ⟨d, hd, hde⟩ := List.mem_map.1 hmem
      exact hde ▸ hk.fresh d hd
    · obtain ⟨d, hd, hde⟩ := List.mem_map.1 hmem
      exact hde ▸ hl.fresh d hd
  tidy := by
    have hentered : ∀ e ∈ Json.entered k.extensions.entries, e.2.Tidy :=
      fun e he => hk.tidy e (Json.mem_of_mem_entered he)
    exact Json.forall_mem_mergeMembers hentered fun e he =>
      ⟨hl.tidy e he, fun v hv => hv.merge (hl.tidy e he)⟩

end Keywords

/-! ## Schemas -/

/-- Two values that may be missing are merged to one that is written, if those that are there are.
-/
lemma Json.exists_mergeOption {α : Type} (write : α → Json) {P : α → Prop} {a b : Option α}
    (ha : ∀ x ∈ a, P x) (hb : ∀ y ∈ b, P y)
    (h : ∀ x ∈ a, ∀ y ∈ b, ∃ z, P z ∧ write z = (write x).merge (write y)) :
    ∃ o : Option α, (∀ z ∈ o, P z) ∧
      o.map write = mergeOption (a.map write) (b.map write) := by
  cases a with
  | none => exact ⟨b, hb, by rw [Option.map_none, mergeOption_none_left]⟩
  | some x =>
    cases b with
    | none => exact ⟨some x, ha, by rw [Option.map_none, mergeOption_none_right]⟩
    | some y =>
      obtain ⟨z, hz, hzw⟩ := h x rfl y rfl
      refine ⟨some z, fun w hw => Option.mem_some.1 hw ▸ hz, ?_⟩
      rw [Option.map_some, hzw]
      rfl

/-- The same for two tables, which are missing if they are empty. -/
lemma Json.exists_tableMember_merge {α : Type} (write : α → Json) {P : α → Prop} {s t : Table α}
    (name : String) (hs : s.keys.Nodup) (ht : t.keys.Nodup) (hsP : ∀ x ∈ s.values, P x)
    (htP : ∀ y ∈ t.values, P y)
    (h : ∀ x ∈ s.values, ∀ y ∈ t.values, ∃ z, P z ∧ write z = (write x).merge (write y)) :
    ∃ u : Table α, u.keys.Nodup ∧ (∀ z ∈ u.values, P z) ∧
      lookup name (tableMember name u write) =
        mergeOption (lookup name (tableMember name s write))
          (lookup name (tableMember name t write)) := by
  have htable (r : Table α) : lookup name (tableMember name r write) =
      if r.isEmpty = false then some (ofTable r write) else none := by
    rw [lookup_tableMember]
    simp only [true_and]
  simp only [htable]
  cases hsE : s.isEmpty with
  | true => exact ⟨t, ht, htP, by rw [if_neg (show ¬true = false by decide), mergeOption_none_left]⟩
  | false =>
    cases htE : t.isEmpty with
    | true =>
      refine ⟨s, hs, hsP, ?_⟩
      rw [hsE, if_neg (show ¬true = false by decide), mergeOption_none_right]
    | false =>
      obtain ⟨u, hu, hkeys, huP, huw⟩ := Table.exists_merge write hs ht hsP htP h
      have huE : u.isEmpty = false := by
        rw [Table.isEmpty, List.isEmpty_eq_false_iff_exists_mem] at hsE ⊢
        obtain ⟨e, he⟩ := hsE
        obtain ⟨d, hd, -⟩ := List.mem_map.1 ((hkeys e.1).2 (.inl (List.mem_map_of_mem he)))
        exact ⟨d, hd⟩
      refine ⟨u, hu, huP, ?_⟩
      rw [if_pos huE, if_pos rfl, if_pos rfl, huw, mergeOption]

namespace Schema

/-- What is said of further properties is merged to something that is written. -/
lemma exists_merge_additional {a b : Additional SchemaRef}
    (hb : ∀ q, b = .values q → Every Tidy q)
    (h : ∀ r q, a = .values r → b = .values q →
      ∃ m, Every Tidy m ∧ refJson m = (refJson r).merge (refJson q)) :
    ∃ c : Additional SchemaRef, (∀ q, c = .values q → Every Tidy q) ∧
      additionalJson Reference.toJson c =
        (additionalJson Reference.toJson a).merge (additionalJson Reference.toJson b) := by
  cases b with
  | allowed d => exact ⟨.allowed d, nofun, (Json.merge_of_isScalar rfl).symm⟩
  | values q =>
    cases a with
    | allowed d =>
      obtain ⟨es, hes⟩ := exists_members_refJson q
      refine ⟨.values q, hb, ?_⟩
      change refJson q = (Json.bool d).merge (refJson q)
      rw [hes]
      rfl
    | values r =>
      obtain ⟨m, hm, hmw⟩ := h r q rfl rfl
      exact ⟨.values m, fun q hq => Additional.values.inj hq ▸ hm, hmw⟩

/-- Two schemas have one whose keywords with schemas are merged as values, if that is so for the
schemas below them. -/
lemma exists_merge_children {s t : Schema} (hs : Every Tidy (.inline s))
    (ht : Every Tidy (.inline t))
    (h : ∀ r ∈ s.children, ∀ q ∈ t.children,
      ∃ m, Every Tidy m ∧ refJson m = (refJson r).merge (refJson q)) :
    ∃ m : Schema, m.properties.keys.Nodup ∧ (∀ r ∈ m.children, Every Tidy r) ∧
      ∀ key ∈ Keywords.childNames, Json.lookup key (m.childMembers Reference.toJson) =
        Json.mergeOption (Json.lookup key (s.childMembers Reference.toJson))
          (Json.lookup key (t.childMembers Reference.toJson)) := by
  have hsBelow := hs.children
  have htBelow := ht.children
  simp only [mem_children, or_imp, forall_and] at hsBelow htBelow
  obtain ⟨hsProperties, hsItems, hsAdditional, hsNegated, hsAllOf, hsOneOf, hsAnyOf⟩ := hsBelow
  obtain ⟨htProperties, htItems, htAdditional, htNegated, htAllOf, htOneOf, htAnyOf⟩ := htBelow
  obtain ⟨properties, hdistinct, hproperties, hpropertiesJson⟩ :=
    Json.exists_tableMember_merge refJson "properties" hs.node.distinct ht.node.distinct
      hsProperties htProperties fun r hr q hq =>
        h r (mem_children.2 (.inl hr)) q (mem_children.2 (.inl hq))
  obtain ⟨items, hitems, hitemsJson⟩ :=
    Json.exists_mergeOption refJson hsItems htItems fun r hr q hq =>
      h r (mem_children.2 (.inr (.inl hr))) q (mem_children.2 (.inr (.inl hq)))
  obtain ⟨additional, hadditional, hadditionalJson⟩ :=
    Json.exists_mergeOption (additionalJson Reference.toJson)
      (P := fun a => ∀ q, a = .values q → Every Tidy q)
      (fun a ha q hq => hsAdditional q (hq ▸ ha)) (fun b hb q hq => htAdditional q (hq ▸ hb))
      fun a ha b hb => exists_merge_additional (fun q hq => htAdditional q (hq ▸ hb))
        fun r q hr hq => h r (mem_children.2 (.inr (.inr (.inl (hr ▸ ha)))))
          q (mem_children.2 (.inr (.inr (.inl (hq ▸ hb)))))
  obtain ⟨negated, hnegated, hnegatedJson⟩ :=
    Json.exists_mergeOption refJson hsNegated htNegated fun r hr q hq =>
      h r (mem_children.2 (.inr (.inr (.inr (.inl hr)))))
        q (mem_children.2 (.inr (.inr (.inr (.inl hq)))))
  have hlist {rs qs : List SchemaRef} (hrs : ∀ r ∈ rs, Every Tidy r)
      (hqs : ∀ q ∈ qs, Every Tidy q) : ∀ m ∈ mergeLists refJson rs qs, Every Tidy m :=
    fun m hm => (mem_mergeLists hm).elim (hrs m) (hqs m)
  let m : Schema :=
    { properties, items, additional, negated
      allOf := mergeLists refJson s.allOf t.allOf
      oneOf := mergeLists refJson s.oneOf t.oneOf
      anyOf := mergeLists refJson s.anyOf t.anyOf }
  refine ⟨m, hdistinct, ?_, fun key hkey => ?_⟩
  · simp only [mem_children, or_imp, forall_and]
    exact ⟨hproperties, hitems, fun q hq => hadditional _ hq q rfl, hnegated,
      hlist hsAllOf htAllOf, hlist hsOneOf htOneOf, hlist hsAnyOf htAnyOf⟩
  · obtain ⟨hp, hi, ha, hn, hl, ho, hy⟩ := lookup_childMembers Reference.toJson s
    obtain ⟨hp', hi', ha', hn', hl', ho', hy'⟩ := lookup_childMembers Reference.toJson t
    obtain ⟨hp'', hi'', ha'', hn'', hl'', ho'', hy''⟩ := lookup_childMembers Reference.toJson m
    simp only [Keywords.childNames, List.mem_cons, List.not_mem_nil, or_false] at hkey
    rcases hkey with rfl | rfl | rfl | rfl | rfl | rfl | rfl
    · rw [hp, hp', hp'']
      exact hpropertiesJson
    · rw [ha, ha', ha'']
      exact hadditionalJson
    · rw [hi, hi', hi'']
      exact hitemsJson
    · rw [hl, hl', hl'']
      exact Json.lookup_listMember_merge "allOf" refJson s.allOf t.allOf
    · rw [ho, ho', ho'']
      exact Json.lookup_listMember_merge "oneOf" refJson s.oneOf t.oneOf
    · rw [hy, hy', hy'']
      exact Json.lookup_listMember_merge "anyOf" refJson s.anyOf t.anyOf
    · rw [hn, hn', hn'']
      exact hnegatedJson

/-- Two written schemas are merged to a written schema, if that is so for the schemas below them. -/
lemma exists_merge_toJson {s t : Schema} (hs : Every Tidy (.inline s)) (ht : Every Tidy (.inline t))
    (h : ∀ r ∈ s.children, ∀ q ∈ t.children,
      ∃ m, Every Tidy m ∧ refJson m = (refJson r).merge (refJson q)) :
    ∃ m : Schema, Every Tidy (.inline m) ∧ m.toJson = s.toJson.merge t.toJson := by
  obtain ⟨below, hdistinct, hbelow, hchildren⟩ := exists_merge_children hs ht h
  let m : Schema := { below with keywords := s.keywords.merge t.keywords }
  have hm : m.Tidy :=
    ⟨Layout.sound_merge Keywords.merges_fields hs.node.keywords ht.node.keywords,
      Keywords.tidy_extensions_merge hs.node.extensions ht.node.extensions, hdistinct⟩
  have hanswer (key : String) :
      m.toJson.get? key = Json.mergeOption (s.toJson.get? key) (t.toJson.get? key) := by
    by_cases hkey : key ∈ Keywords.names ++ Keywords.childNames
    · rcases List.mem_append.1 hkey with hkey | hkey
      · simp only [get?_toJson_of_keyword hm.extensions.fresh hkey,
          get?_toJson_of_keyword hs.node.extensions.fresh hkey,
          get?_toJson_of_keyword ht.node.extensions.fresh hkey]
        exact Layout.lookup_members_merge Keywords.merges_fields hs.node.keywords
          ht.node.keywords key
      · simp only [get?_toJson_of_child hm.extensions.fresh hkey,
          get?_toJson_of_child hs.node.extensions.fresh hkey,
          get?_toJson_of_child ht.node.extensions.fresh hkey]
        exact hchildren key hkey
    · rw [get?_toJson_of_unknown hm.extensions.distinct hkey,
        get?_toJson_of_unknown hs.node.extensions.distinct hkey,
        get?_toJson_of_unknown ht.node.extensions.distinct hkey]
      exact Keywords.lookup_extensions_merge ht.node.extensions.distinct
        hs.node.extensions.distinct key
  refine ⟨m, .inline hm hbelow, ?_⟩
  obtain ⟨es, hes, hincreasing⟩ := exists_increasing_write Reference.toJson s
  obtain ⟨fs, hfs, hincreasing'⟩ := exists_increasing_write Reference.toJson t
  obtain ⟨gs, hgs, hincreasing''⟩ := exists_increasing_write Reference.toJson m
  simp only [toJson, hes, hfs, hgs, Json.get?] at hanswer ⊢
  exact Json.members_eq_merge hincreasing hincreasing' hincreasing'' hanswer

/-- Whatever is written for a reference is written for a schema without schemas below it. -/
lemma exists_toJson_eq_refJson {r : SchemaRef} (hr : Every Tidy r) :
    ∃ s : Schema, Every Tidy (.inline s) ∧ s.toJson = refJson r ∧
      ∀ q ∈ s.children, ∃ t : Schema, r = .inline t ∧ q ∈ t.children := by
  cases r with
  | inline s => exact ⟨s, hr, (refJson_inline s).symm, fun q hq => ⟨s, rfl, hq⟩⟩
  | ref path =>
    let s : Schema := { keywords := { extensions := ⟨[("$ref", .string path)]⟩ } }
    have hchildren : s.children = [] := rfl
    have hkeywords : Keywords.layout.Sound .tidy s.keywords := by
      simp [s, Layout.Sound, Keywords.layout]
    have hextensions : Extensions.Tidy (Keywords.names ++ Keywords.childNames)
        s.keywords.extensions := by
      have hname : "$ref" ∉ Keywords.names ++ Keywords.childNames := by decide
      exact ⟨List.nodup_singleton _, List.forall_mem_singleton.2 hname,
        List.forall_mem_singleton.2 (.string path)⟩
    refine ⟨s, .inline ⟨hkeywords, hextensions, List.nodup_nil⟩ ?_, ?_, ?_⟩
    · rw [hchildren]
      exact List.forall_mem_nil _
    · have hnone : s.childMembers Reference.toJson = [] := rfl
      have hknown : s.keywords.known.members = [] := by
        rw [Keywords.members_known]
        simp [s, Layout.members, Keywords.layout, Json.member?, Json.listMember, Json.arrayMember]
      rw [refJson_ref, toJson, write_eq, hnone, Keywords.members_eq, hknown]
      rfl
    · rw [hchildren]
      exact List.forall_mem_nil _

/-- **What is merged from written schemas is written for a schema.**

**Proof sketch.** By induction over the schemas below the first one: every keyword is merged by the
law of its kind. A reference is written like a schema whose only keyword is an unknown `$ref`, and
merged as that. -/
theorem exists_merge {r : SchemaRef} (hr : Every Tidy r) :
    ∀ {q : SchemaRef}, Every Tidy q →
      ∃ m, Every Tidy m ∧ refJson m = (refJson r).merge (refJson q) := by
  induction r using ref_induction with
  | ref path =>
    intro q hq
    obtain ⟨s, hs, hsw, hnone⟩ := exists_toJson_eq_refJson hr
    obtain ⟨t, ht, htw, -⟩ := exists_toJson_eq_refJson hq
    obtain ⟨m, hm, hmw⟩ := exists_merge_toJson hs ht fun r hr => by
      obtain ⟨_, heq, -⟩ := hnone r hr
      cases heq
    exact ⟨.inline m, hm, by rw [refJson_inline, hmw, hsw, htw]⟩
  | inline s ih =>
    intro q hq
    obtain ⟨t, ht, htw, -⟩ := exists_toJson_eq_refJson hq
    obtain ⟨m, hm, hmw⟩ := exists_merge_toJson hr ht fun r hr' q hq' =>
      ih r hr' (hr.children r hr') (ht.children q hq')
    exact ⟨.inline m, hm, by rw [refJson_inline, refJson_inline, hmw, htw]⟩

end Schema

end ApiLowering
