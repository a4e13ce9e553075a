import ApiLowering.Proofs.Schema.Basic

/-!
# Sameness, place by place

Schemas are the same up to the order of keys exactly if their own keywords are, and they have the
same schemas in the same places. So whatever is done to the schemas in all places alike keeps
sameness.

## Main definitions

* `Schema.gist` — what is left of a schema if the order of keys does not count.
* `Schema.Place`, `Schema.child?` — the places below a schema, and what is there.
* `Schema.ownGist` — the gist of a schema without its children.

## Main results

* `Schema.sameRef_iff` — schemas are the same exactly if they have one gist.
* `Schema.gist_inline_eq_iff` — the gist of a schema, place by place.
-/

namespace ApiLowering

/-- Whether further properties are allowed, if that is all that is said of them. -/
def Additional.allowed? {σ : Type} : Additional σ → Option Bool
  | allowed b => some b
  | values _ => none

namespace Schema

/-! ## Gists -/

/-- What is left of a schema or a reference if the order of keys does not count. -/
def gist (r : SchemaRef) : Json := (form r).essence

/-- **Schemas are the same** exactly if they have one gist. -/
theorem sameRef_iff {r s : SchemaRef} : sameRef r s = true ↔ gist r = gist s :=
  Json.same_iff _ _

lemma gist_ref (path : String) : gist (.ref path) = .string path := by
  rw [gist, form, writeRef_ref, Json.essence]

lemma exists_gist_inline (s : Schema) : ∃ es, gist (.inline s) = .members es := by
  obtain ⟨es, hes, -⟩ := exists_increasing_write Json.string s
  rw [gist, form, writeRef_inline, hes, Json.essence]
  exact ⟨_, rfl⟩

lemma gist_inline_ne_ref {s : Schema} {path : String} : gist (.inline s) ≠ gist (.ref path) := by
  obtain ⟨es, hes⟩ := exists_gist_inline s
  rw [hes, gist_ref]
  exact Json.noConfusion

lemma gist_ref_injective {path path' : String} (h : gist (.ref path) = gist (.ref path')) :
    path = path' := by
  rw [gist_ref, gist_ref] at h
  exact Json.string.inj h

/-- Only a reference has the gist of a reference. -/
lemma eq_ref_of_gist_eq {r : SchemaRef} {path : String} (h : gist r = gist (.ref path)) :
    r = .ref path := by
  cases r with
  | ref path' => rw [gist_ref_injective h]
  | inline s => exact absurd h gist_inline_ne_ref

/-- Only a schema has the gist of a schema. -/
lemma exists_inline_of_gist_eq {r : SchemaRef} {s : Schema} (h : gist r = gist (.inline s)) :
    ∃ t, r = .inline t := by
  cases r with
  | ref path => exact absurd h.symm gist_inline_ne_ref
  | inline t => exact ⟨t, rfl⟩

/-! ## Places -/

/-- A place below a schema. -/
inductive Place where
  | property (key : String)
  | items
  | values
  | negated
  | allOf (i : Nat)
  | oneOf (i : Nat)
  | anyOf (i : Nat)

/-- The schema in a place. -/
def child? (s : Schema) : Place → Option SchemaRef
  | .property key => s.properties.find? key
  | .items => s.items
  | .values => s.additional.bind Additional.values?
  | .negated => s.negated
  | .allOf i => s.allOf[i]?
  | .oneOf i => s.oneOf[i]?
  | .anyOf i => s.anyOf[i]?

lemma mem_children_of_child? {s : Schema} {p : Place} {r : SchemaRef} (h : s.child? p = some r) :
    r ∈ s.children := by
  simp only [children, List.mem_append, Option.mem_toList]
  cases p with
  | property key => simp [Table.mem_values_of_find? h]
  | items => simp_all [child?]
  | values => simp_all [child?]
  | negated => simp_all [child?]
  | allOf i => simp [List.mem_of_getElem? h]
  | oneOf i => simp [List.mem_of_getElem? h]
  | anyOf i => simp [List.mem_of_getElem? h]

/-- Every child is in some place. -/
lemma exists_child?_of_mem_children {s : Schema} (hs : s.properties.keys.Nodup) {r : SchemaRef}
    (h : r ∈ s.children) : ∃ p, s.child? p = some r := by
  simp only [children, List.mem_append, Option.mem_toList] at h
  rcases h with (((((h | h) | h) | h) | h) | h) | h
  · obtain ⟨e, he, rfl⟩ := List.mem_map.1 h
    exact ⟨.property e.1, Table.find?_eq_some_of_mem hs he⟩
  · exact ⟨.items, h⟩
  · exact ⟨.values, h⟩
  · exact ⟨.negated, h⟩
  · exact (List.mem_iff_getElem?.1 h).imp' .allOf fun _ => id
  · exact (List.mem_iff_getElem?.1 h).imp' .oneOf fun _ => id
  · exact (List.mem_iff_getElem?.1 h).imp' .anyOf fun _ => id

lemma child?_mapChildren (f : SchemaRef → SchemaRef) (s : Schema) (p : Place) :
    (s.mapChildren f).child? p = (s.child? p).map f := by
  cases p with
  | property key => exact Table.find?_map f s.properties key
  | values =>
    change (s.additional.map (Additional.map f)).bind Additional.values? =
      (s.additional.bind Additional.values?).map f
    rcases s.additional with - | ⟨b⟩ | ⟨r⟩ <;> rfl
  | items => rfl
  | negated => rfl
  | allOf i => exact List.getElem?_map
  | oneOf i => exact List.getElem?_map
  | anyOf i => exact List.getElem?_map

/-! ## What is written in each place -/

section Written

variable {s : Schema} {key : String}

lemma get?_form_child (hs : s.keywords.Fresh) (hkey : key ∈ Keywords.childNames) :
    (form (.inline s)).get? key = Json.lookup key (s.childMembers .string) := by
  rw [form, writeRef_inline, get?_write_of_known _ hs (List.mem_append_right _ hkey),
    knownMembers, Json.lookup_append, s.keywords.lookup_known_of_child hkey, Option.or_none]

lemma get?_form_own (hkey : key ∉ Keywords.childNames) :
    (form (.inline s)).get? key = (Json.object s.keywords.members).get? key := by
  have hchild : Json.lookup key (s.childMembers .string) = none := by
    refine Json.lookup_eq_none_iff.2 fun h => hkey ?_
    have hmem := (keys_childMembers Json.string s).subset h
    simp only [Keywords.childNames, List.mem_cons] at hmem ⊢
    tauto
  have hknown : Json.lookup key s.keywords.known.members.reverse =
      Json.lookup key s.keywords.known.members := by
    rw [← Json.lookup_entered, Json.lookup_entered_of_nodup]
    exact s.keywords.keys_known.nodup (by decide +kernel)
  rw [form, writeRef_inline, get?_write, knownMembers, Json.lookup_append, hchild, Option.none_or,
    Json.object_eq, Json.get?, Json.lookup_entered, Keywords.members_eq s.keywords,
    List.reverse_append, Json.lookup_append, hknown]

lemma get?_own_child (hs : s.keywords.Fresh) (hkey : key ∈ Keywords.childNames) :
    (Json.object s.keywords.members).get? key = none := by
  rw [Json.object_eq, Json.get?, Json.lookup_eq_none_iff, Json.mem_keys_entered,
    Keywords.members_eq, List.map_append, List.mem_append]
  rintro (h | h)
  · exact Keywords.not_mem_names_of_child key hkey (s.keywords.keys_known.subset h)
  · obtain ⟨e, he, rfl⟩ := List.mem_map.1 h
    exact hs e he (List.mem_append_right _ hkey)

end Written

/-! ## The gist of a schema, place by place -/

/-- The gist of a schema without its children. -/
def ownGist (s : Schema) : Json × Option Bool :=
  ((Json.object s.keywords.members).essence, s.additional.bind Additional.allowed?)

lemma ownGist_mapChildren (f : SchemaRef → SchemaRef) (s : Schema) :
    (s.mapChildren f).ownGist = s.ownGist := by
  have hallowed : (s.additional.map (Additional.map f)).bind Additional.allowed? =
      s.additional.bind Additional.allowed? := by
    rcases s.additional with - | ⟨b⟩ | ⟨r⟩ <;> rfl
  rw [ownGist, ownGist, ← hallowed]
  rfl

section Answers

variable {s t : Schema}

/-- The answers of two forms to a key agree. -/
def AgreeAt (s t : Schema) (key : String) : Prop :=
  ((form (.inline s)).get? key).map Json.essence = ((form (.inline t)).get? key).map Json.essence

lemma gist_inline_eq_iff_agreeAt : gist (.inline s) = gist (.inline t) ↔ ∀ key, AgreeAt s t key := by
  constructor
  · intro h key
    rw [AgreeAt, ← Json.essence_get?, ← Json.essence_get?]
    exact congrArg (Json.get? · key) h
  · intro h
    simp only [AgreeAt, form, writeRef_inline, write_eq, Json.object_eq, Json.get?,
      Json.lookup_entered] at h
    simp only [gist, form, writeRef_inline, write_eq]
    exact (Json.essence_object_eq_iff _ _).2 h

lemma own_eq_iff_agreeAt (hs : s.keywords.Fresh) (ht : t.keywords.Fresh) :
    (Json.object s.keywords.members).essence = (Json.object t.keywords.members).essence ↔
      ∀ key ∉ Keywords.childNames, AgreeAt s t key := by
  have hlookup (k : Keywords) (key : String) :
      Json.lookup key k.members.reverse = (Json.object k.members).get? key := by
    rw [Json.object_eq, Json.get?, Json.lookup_entered]
  simp only [Json.essence_object_eq_iff, hlookup]
  constructor
  · intro h key hkey
    rw [AgreeAt, get?_form_own hkey, get?_form_own hkey]
    exact h key
  · intro h key
    by_cases hkey : key ∈ Keywords.childNames
    · rw [get?_own_child hs hkey, get?_own_child ht hkey]
    · rw [← get?_form_own hkey, ← get?_form_own hkey]
      exact h key hkey

lemma option_agree_iff {o o' : Option SchemaRef} :
    (o.map form).map Json.essence = (o'.map form).map Json.essence ↔
      o.map gist = o'.map gist := by
  rw [Option.map_map, Option.map_map]
  rfl

lemma list_agree_iff {rs qs : List SchemaRef} :
    ((if rs = [] then none else some (Json.array (rs.map form))).map Json.essence =
        (if qs = [] then none else some (Json.array (qs.map form))).map Json.essence) ↔
      ∀ i : Nat, rs[i]?.map gist = qs[i]?.map gist := by
  have hgist (rs : List SchemaRef) :
      (Json.array (rs.map form)).essence = .array (rs.map gist) := by
    rw [Json.essence, Json.essenceItems_eq_map, List.map_map]
    rfl
  have hlists : (∀ i : Nat, rs[i]?.map gist = qs[i]?.map gist) ↔ rs.map gist = qs.map gist := by
    rw [List.ext_getElem?_iff]
    simp only [List.getElem?_map]
  rw [hlists]
  split_ifs with hrs hqs hqs
  · simp [hrs, hqs]
  · simp [hrs, hqs]
  · simp [hrs, hqs]
  · simp [hgist]

lemma additional_agree_iff {a b : Option (Additional SchemaRef)} :
    (a.map (additionalJson .string)).map Json.essence =
        (b.map (additionalJson .string)).map Json.essence ↔
      a.bind Additional.allowed? = b.bind Additional.allowed? ∧
        (a.bind Additional.values?).map gist = (b.bind Additional.values?).map gist := by
  have hvalues (r : SchemaRef) : (additionalJson .string (.values r)).essence = gist r := rfl
  have hallowed (x : Bool) : (additionalJson .string (.allowed x)).essence = .bool x := rfl
  have hne (r : SchemaRef) (x : Bool) : gist r ≠ .bool x := by
    cases r with
    | ref path =>
      rw [gist_ref]
      exact Json.noConfusion
    | inline s =>
      obtain ⟨es, hes⟩ := exists_gist_inline s
      rw [hes]
      exact Json.noConfusion
  rcases a with - | ⟨x⟩ | ⟨r⟩ <;> rcases b with - | ⟨y⟩ | ⟨q⟩ <;>
    simp [Additional.allowed?, Additional.values?, hvalues, hallowed, hne, Ne.symm (hne _ _)]

lemma table_agree_iff {t t' : Table SchemaRef} (ht : t.keys.Nodup) (ht' : t'.keys.Nodup) :
    ((if t.isEmpty then none else some (Json.ofTable t form)).map Json.essence =
        (if t'.isEmpty then none else some (Json.ofTable t' form)).map Json.essence) ↔
      ∀ key, (t.find? key).map gist = (t'.find? key).map gist := by
  have hlookup {t : Table SchemaRef} (ht : t.keys.Nodup) (key : String) :
      (Json.lookup key (t.entries.map fun e => (e.1, form e.2)).reverse).map Json.essence =
        (t.find? key).map gist := by
    have hkeys : ((t.entries.map fun e => (e.1, form e.2)).map Prod.fst).Nodup := by
      rw [List.map_map]
      exact ht
    rw [← Json.lookup_entered, Json.lookup_entered_of_nodup key hkeys, Json.lookup_eq_lookup,
      Table.lookup_map, Option.map_map]
    rfl
  have hempty {t : Table SchemaRef} : t.isEmpty = true ↔ ∀ key, (t.find? key).map gist = none := by
    obtain ⟨es⟩ := t
    cases es with
    | nil => simp [Table.isEmpty, Table.find?, Table.lookup]
    | cons e es =>
      simp only [Table.isEmpty, List.isEmpty_cons, Bool.false_eq_true, false_iff, not_forall]
      exact ⟨e.1, by simp [Table.find?, Table.lookup]⟩
  have htables : (Json.ofTable t form).essence = (Json.ofTable t' form).essence ↔
      ∀ key, (t.find? key).map gist = (t'.find? key).map gist := by
    simp only [Json.ofTable, Json.essence_object_eq_iff, hlookup ht, hlookup ht']
  split_ifs with h h' h'
  · simp [hempty.1 h, hempty.1 h']
  · refine iff_of_false (by simp) fun hall => h' (hempty.2 fun key => ?_)
    rw [← hall, hempty.1 h]
  · refine iff_of_false (by simp) fun hall => h (hempty.2 fun key => ?_)
    rw [hall, hempty.1 h']
  · simp [htables]

end Answers

/-- **The gist of a schema**, place by place. -/
theorem gist_inline_eq_iff {s t : Schema} (hs : s.Lawful) (ht : t.Lawful) :
    gist (.inline s) = gist (.inline t) ↔
      s.ownGist = t.ownGist ∧ ∀ p, (s.child? p).map gist = (t.child? p).map gist := by
  have hchild {key : String} (hkey : key ∈ Keywords.childNames) : AgreeAt s t key ↔
      (Json.lookup key (s.childMembers .string)).map Json.essence =
        (Json.lookup key (t.childMembers .string)).map Json.essence := by
    rw [AgreeAt, get?_form_child hs.fresh hkey, get?_form_child ht.fresh hkey]
  have hproperties : AgreeAt s t "properties" ↔
      ∀ key, (s.properties.find? key).map gist = (t.properties.find? key).map gist := by
    rw [← table_agree_iff hs.distinct ht.distinct, AgreeAt, form, form, writeRef_inline,
      writeRef_inline, get?_write_properties _ hs.fresh, get?_write_properties _ ht.fresh]
    rfl
  have hlist {key : String} (hkey : key ∈ listNames) : AgreeAt s t key ↔
      ∀ i : Nat, (s.listed key)[i]?.map gist = (t.listed key)[i]?.map gist := by
    rw [← list_agree_iff, AgreeAt, form, form, writeRef_inline, writeRef_inline,
      get?_write_listed _ hs.fresh hkey, get?_write_listed _ ht.fresh hkey]
    rfl
  have hitems : AgreeAt s t "items" ↔ s.items.map gist = t.items.map gist := by
    obtain ⟨-, hs, -⟩ := lookup_childMembers .string s
    obtain ⟨-, ht, -⟩ := lookup_childMembers .string t
    rw [← option_agree_iff, hchild (by decide), hs, ht]
    rfl
  have hadditional : AgreeAt s t "additionalProperties" ↔
      s.additional.bind Additional.allowed? = t.additional.bind Additional.allowed? ∧
        (s.additional.bind Additional.values?).map gist =
          (t.additional.bind Additional.values?).map gist := by
    obtain ⟨-, -, hs, -⟩ := lookup_childMembers .string s
    obtain ⟨-, -, ht, -⟩ := lookup_childMembers .string t
    rw [← additional_agree_iff, hchild (by decide), hs, ht]
  have hnegated : AgreeAt s t "not" ↔ s.negated.map gist = t.negated.map gist := by
    obtain ⟨-, -, -, hs, -⟩ := lookup_childMembers .string s
    obtain ⟨-, -, -, ht, -⟩ := lookup_childMembers .string t
    rw [← option_agree_iff, hchild (by decide), hs, ht]
    rfl
  have hallOf := hlist (show "allOf" ∈ listNames by decide)
  have honeOf := hlist (show "oneOf" ∈ listNames by decide)
  have hanyOf := hlist (show "anyOf" ∈ listNames by decide)
  rw [gist_inline_eq_iff_agreeAt]
  constructor
  · intro h
    obtain ⟨hallowed, hvalues⟩ := hadditional.1 (h _)
    refine ⟨Prod.ext ((own_eq_iff_agreeAt hs.fresh ht.fresh).2 fun key _ => h key) hallowed, ?_⟩
    intro p
    cases p with
    | property key => exact hproperties.1 (h _) key
    | items => exact hitems.1 (h _)
    | values => exact hvalues
    | negated => exact hnegated.1 (h _)
    | allOf i => exact hallOf.1 (h _) i
    | oneOf i => exact honeOf.1 (h _) i
    | anyOf i => exact hanyOf.1 (h _) i
  · rintro ⟨hown, h⟩ key
    by_cases hkey : key ∈ Keywords.childNames
    · simp only [Keywords.childNames, List.mem_cons, List.not_mem_nil, or_false] at hkey
      rcases hkey with rfl | rfl | rfl | rfl | rfl | rfl | rfl
      · exact hproperties.2 fun key => h (.property key)
      · exact hadditional.2 ⟨congrArg Prod.snd hown, h .values⟩
      · exact hitems.2 (h .items)
      · exact hallOf.2 fun i => h (.allOf i)
      · exact honeOf.2 fun i => h (.oneOf i)
      · exact hanyOf.2 fun i => h (.anyOf i)
      · exact hnegated.2 (h .negated)
    · exact (own_eq_iff_agreeAt hs.fresh ht.fresh).1 (congrArg Prod.fst hown) key hkey

end Schema

end ApiLowering
