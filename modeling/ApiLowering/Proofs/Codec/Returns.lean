import ApiLowering.Proofs.Codec.Schemas

/-!
# What schemas come back as

A tidy schema that is written always comes back as a schema or a reference: as the reference under
a textual `$ref` if there is one among its unknown keywords, and else as a schema with the same
keywords, the schemas below which have come back in turn. What has come back is written as before
where no such `$ref` is below it.

## Main definitions

* `Schema.readBack` — what a schema or a reference comes back as.
* `Schema.childrenAt` — the schemas under a keyword.

## Main results

* `Schema.readNode?_refJson` — every tidy schema comes back.
* `Schema.get?_comeBack` — the keywords without schemas are written as before.
* `Schema.get?_comeBack_of_child` — so are the keywords with schemas that are written as before.
* `Schema.refJson_readBack` — a schema without a stray `$ref` is written as before.
-/

namespace ApiLowering

/-! ## Tables in order -/

namespace Json

variable {α : Type} {t : Table α} {write write' : α → Json}

lemma ofTable_sortByKey (h : t.keys.Nodup) : ofTable t.sortByKey write = ofTable t write := by
  have hnodup : t.sortByKey.keys.Nodup := (t.entries_sortByKey_perm.map Prod.fst).nodup_iff.2 h
  rw [ofTable_eq write h, ofTable_eq write hnodup, Table.sortByKey_sortByKey]

lemma ofTable_congr (h : ∀ v ∈ t.values, write v = write' v) :
    ofTable t write = ofTable t write' := by
  rw [ofTable, ofTable]
  congr 1
  exact List.map_congr_left fun e he => by rw [h e.2 (List.mem_map_of_mem he)]

lemma ofTable_map {β : Type} (f : β → α) (u : Table β) :
    ofTable (u.map f) write = ofTable u fun v => write (f v) := by
  rw [ofTable, ofTable, Table.map, List.map_map]
  rfl

end Json

lemma Discriminator.toJson_ordered {d : Discriminator} (h : d.mapping.keys.Nodup) :
    d.ordered.toJson = d.toJson := by
  rw [toJson, toJson, ordered, Json.tableMember, Json.tableMember, Table.isEmpty_sortByKey,
    Json.ofTable_sortByKey h]

/-- Keywords in order are written as before. -/
lemma Keywords.members_ordered {k : Keywords} (h : layout.Sound .tidy k) :
    layout.members k.ordered = layout.members k := by
  have hdiscriminator : Json.member? "discriminator" (k.discriminator.map Discriminator.ordered)
      Discriminator.toJson = Json.member? "discriminator" k.discriminator Discriminator.toJson := by
    cases hd : k.discriminator with
    | none => rfl
    | some d =>
      have hfield := h (.optional "discriminator" .discriminator discriminator)
        (by simp [layout]) d hd
      have hmapping : d.mapping.keys.Nodup := Codec.sound_discriminator.1 hfield.1 rfl
      rw [Option.map_some, Json.member?, Json.member?, Discriminator.toJson_ordered hmapping]
  simp [Layout.members, layout, ordered, hdiscriminator]

/-! ## Keywords of written schemas -/

namespace Schema

/-- A schema answers for each of its keywords as it is written. -/
lemma get?_toJson_of_keyword {s : Schema} (hs : s.keywords.Fresh) {key : String}
    (hkey : key ∈ Keywords.names) :
    s.toJson.get? key = Json.lookup key (Keywords.layout.members s.keywords) := by
  rw [toJson, get?_write_of_known _ hs (List.mem_append_left _ hkey),
    lookup_knownMembers_of_keyword hkey]

lemma get?_toJson_of_child {s : Schema} (hs : s.keywords.Fresh) {key : String}
    (hkey : key ∈ Keywords.childNames) :
    s.toJson.get? key = Json.lookup key (s.childMembers Reference.toJson) := by
  rw [toJson, get?_write_of_known _ hs (List.mem_append_right _ hkey),
    lookup_knownMembers_of_child hkey]

lemma get?_toJson_of_unknown {s : Schema} (hs : s.keywords.extensions.keys.Nodup) {key : String}
    (hkey : key ∉ Keywords.names ++ Keywords.childNames) :
    s.toJson.get? key = Json.lookup key s.keywords.extensions.entries := by
  rw [toJson, get?_write_of_unknown _ hkey, ← Json.lookup_entered,
    Json.lookup_entered_of_nodup key hs]

end Schema

/-! ## Schemas under a keyword -/

/-- The values under a keyword that may be written for schemas. -/
def Json.schemasUnder (key : String) : Option Json → List Json
  | some (.members es) => if key = "properties" then es.map Prod.snd else [.members es]
  | some (.array xs) => xs
  | _ => []

lemma Json.schemasUnder_of_isScalar (key : String) {v : Json} (h : v.isScalar = true) :
    schemasUnder key (some v) = [] := by
  cases v with
  | array xs => cases h
  | members es => cases h
  | _ => rfl

namespace Schema

/-- The schemas under a keyword. -/
def childrenAt (s : Schema) (key : String) : List SchemaRef :=
  if key = "properties" then s.properties.values
  else if key = "items" then s.items.toList
  else if key = "additionalProperties" then (s.additional.bind Additional.values?).toList
  else if key = "not" then s.negated.toList
  else s.listed key

lemma mem_children_of_mem_childrenAt {s : Schema} {key : String} {r : SchemaRef}
    (h : r ∈ s.childrenAt key) : r ∈ s.children := by
  rw [childrenAt] at h
  split_ifs at h
  · exact mem_children.2 (.inl h)
  · exact mem_children.2 (.inr (.inl (Option.mem_toList.1 h)))
  · obtain ⟨a, ha, har⟩ := Option.bind_eq_some_iff.1 (Option.mem_toList.1 h)
    cases a with
    | allowed b => cases har
    | values q =>
      obtain rfl := Option.some.inj har
      exact mem_children.2 (.inr (.inr (.inl ha)))
  · exact mem_children.2 (.inr (.inr (.inr (.inl (Option.mem_toList.1 h)))))
  · exact mem_children_of_mem_listed h

lemma mem_schemasUnder_map {key : String} (hkey : key ≠ "properties") {o : Option SchemaRef}
    {v : Json} : v ∈ Json.schemasUnder key (o.map refJson) ↔ ∃ r ∈ o, refJson r = v := by
  cases o with
  | none => simp [Json.schemasUnder]
  | some r =>
    obtain ⟨es, hes⟩ := exists_members_refJson r
    simp [Json.schemasUnder, hes, hkey, eq_comm]

lemma mem_schemasUnder_list {key name : String} {rs : List SchemaRef} {v : Json}
    (hkey : key = name) :
    v ∈ Json.schemasUnder key (Json.lookup key (Json.listMember name rs refJson)) ↔
      ∃ r ∈ rs, refJson r = v := by
  subst hkey
  rw [Json.lookup_listMember]
  by_cases hrs : rs = []
  · simp [hrs, Json.schemasUnder]
  · simp [hrs, Json.schemasUnder]

lemma mem_schemasUnder_table {t : Table SchemaRef} (ht : t.keys.Nodup) {v : Json} :
    v ∈ Json.schemasUnder "properties"
        (Json.lookup "properties" (Json.tableMember "properties" t refJson)) ↔
      ∃ r ∈ t.values, refJson r = v := by
  rw [Json.lookup_tableMember]
  cases hempty : t.isEmpty with
  | true =>
    have hvalues : t.values = [] := by rw [Table.values, List.isEmpty_iff.1 hempty, List.map_nil]
    simp [Json.schemasUnder, hvalues]
  | false =>
    have hvalues : (t.sortByKey.map refJson).entries.map Prod.snd =
        t.sortByKey.values.map refJson := by
      rw [Table.map, Table.values, List.map_map, List.map_map]
      rfl
    rw [if_pos ⟨rfl, rfl⟩, Json.ofTable_eq refJson ht, Json.schemasUnder, if_pos rfl, hvalues,
      List.mem_map]
    simp only [t.values_sortByKey_perm.mem_iff]

/-- What is written under a keyword with schemas is what is written for the schemas under it. -/
lemma mem_schemasUnder {s : Schema} (hs : s.properties.keys.Nodup) {key : String}
    (hkey : key ∈ Keywords.childNames) {v : Json} :
    v ∈ Json.schemasUnder key (Json.lookup key (s.childMembers Reference.toJson)) ↔
      ∃ r ∈ s.childrenAt key, refJson r = v := by
  obtain ⟨hproperties, hitems, hadditional, hnot, hallOf, honeOf, hanyOf⟩ :=
    lookup_childMembers Reference.toJson s
  simp only [Keywords.childNames, List.mem_cons, List.not_mem_nil, or_false] at hkey
  rcases hkey with rfl | rfl | rfl | rfl | rfl | rfl | rfl
  · rw [hproperties]
    exact mem_schemasUnder_table hs
  · rw [hadditional]
    rcases hs : s.additional with - | ⟨b⟩ | ⟨r⟩
    · simp [childrenAt, hs, Json.schemasUnder]
    · simp [childrenAt, hs, Json.schemasUnder, additionalJson, Additional.values?]
    · refine (mem_schemasUnder_map (o := some r) (by decide)).trans ?_
      simp [childrenAt, hs, Additional.values?]
  · rw [hitems]
    refine (mem_schemasUnder_map (by decide)).trans ?_
    simp [childrenAt]
  · rw [hallOf]
    exact mem_schemasUnder_list rfl
  · rw [honeOf]
    exact mem_schemasUnder_list rfl
  · rw [hanyOf]
    exact mem_schemasUnder_list rfl
  · rw [hnot]
    refine (mem_schemasUnder_map (by decide)).trans ?_
    simp [childrenAt]

/-! ## Schemas with other schemas below them -/

section ComeBack

variable {s : Schema} {g : SchemaRef → SchemaRef} {key : String}

/-- A schema whose children were exchanged has a keyword with schemas exactly if it had. -/
lemma isSome_lookup_comeBack (hkey : key ∈ Keywords.childNames) :
    (Json.lookup key ((s.comeBack g).childMembers Reference.toJson)).isSome =
      (Json.lookup key (s.childMembers Reference.toJson)).isSome := by
  obtain ⟨hp, hi, ha, hn, hl, ho, hy⟩ := lookup_childMembers Reference.toJson s
  obtain ⟨hp', hi', ha', hn', hl', ho', hy'⟩ := lookup_childMembers Reference.toJson (s.comeBack g)
  have hlist (name : String) (rs : List SchemaRef) :
      (Json.lookup name (Json.listMember name (rs.map g) refJson)).isSome =
        (Json.lookup name (Json.listMember name rs refJson)).isSome := by
    rw [Json.lookup_listMember, Json.lookup_listMember]
    cases rs <;> simp
  simp only [Keywords.childNames, List.mem_cons, List.not_mem_nil, or_false] at hkey
  rcases hkey with rfl | rfl | rfl | rfl | rfl | rfl | rfl
  · rw [hp, hp', Json.lookup_tableMember, Json.lookup_tableMember, comeBack]
    simp only [Table.isEmpty_sortByKey, Table.isEmpty_map]
    split <;> rfl
  · rw [ha, ha', comeBack, mapChildren, Option.isSome_map, Option.isSome_map, Option.isSome_map]
  · rw [hi, hi', comeBack, mapChildren, Option.isSome_map, Option.isSome_map, Option.isSome_map]
  · rw [hl, hl']
    exact hlist "allOf" s.allOf
  · rw [ho, ho']
    exact hlist "oneOf" s.oneOf
  · rw [hy, hy']
    exact hlist "anyOf" s.anyOf
  · rw [hn, hn', comeBack, mapChildren, Option.isSome_map, Option.isSome_map, Option.isSome_map]

/-- If each schema under a keyword is exchanged for one that is written alike, so is the keyword. -/
lemma lookup_comeBack (hs : s.properties.keys.Nodup) (hkey : key ∈ Keywords.childNames)
    (h : ∀ r ∈ s.childrenAt key, refJson (g r) = refJson r) :
    Json.lookup key ((s.comeBack g).childMembers Reference.toJson) =
      Json.lookup key (s.childMembers Reference.toJson) := by
  obtain ⟨hp, hi, ha, hn, hl, ho, hy⟩ := lookup_childMembers Reference.toJson s
  obtain ⟨hp', hi', ha', hn', hl', ho', hy'⟩ := lookup_childMembers Reference.toJson (s.comeBack g)
  have hoption (o : Option SchemaRef) (ho : ∀ r ∈ o, refJson (g r) = refJson r) :
      (o.map g).map refJson = o.map refJson := by
    rw [Option.map_map]
    exact Option.map_congr ho
  have hlist (name : String) (rs : List SchemaRef) (hrs : ∀ r ∈ rs, refJson (g r) = refJson r) :
      Json.listMember name (rs.map g) refJson = Json.listMember name rs refJson := by
    rw [Json.listMember, Json.listMember, List.map_map]
    exact congrArg _ (List.map_congr_left hrs)
  simp only [Keywords.childNames, List.mem_cons, List.not_mem_nil, or_false] at hkey
  rcases hkey with rfl | rfl | rfl | rfl | rfl | rfl | rfl
  · have hnodup : (s.properties.map g).keys.Nodup := (Table.keys_map g s.properties).symm ▸ hs
    have htable : Json.ofTable (s.properties.map g).sortByKey refJson =
        Json.ofTable s.properties refJson := by
      rw [Json.ofTable_sortByKey hnodup, Json.ofTable_map]
      exact Json.ofTable_congr h
    rw [hp, hp']
    change Json.lookup _ (Json.tableMember _ (s.properties.map g).sortByKey refJson) =
      Json.lookup _ (Json.tableMember _ s.properties refJson)
    rw [Json.tableMember, Json.tableMember, Table.isEmpty_sortByKey, Table.isEmpty_map, htable]
  · rw [ha, ha']
    change (s.additional.map (Additional.map g)).map _ = _
    rw [Option.map_map]
    refine Option.map_congr fun a hadditional => ?_
    cases a with
    | allowed b => rfl
    | values r =>
      refine h r ?_
      rw [childrenAt, if_neg (by decide), if_neg (by decide), if_pos rfl,
        Option.mem_def.1 hadditional]
      exact List.mem_singleton_self r
  · rw [hi, hi']
    exact hoption s.items fun r hr => h r (by simpa [childrenAt] using hr)
  · rw [hl, hl']
    exact congrArg _ (hlist "allOf" s.allOf h)
  · rw [ho, ho']
    exact congrArg _ (hlist "oneOf" s.oneOf h)
  · rw [hy, hy']
    exact congrArg _ (hlist "anyOf" s.anyOf h)
  · rw [hn, hn']
    exact hoption s.negated fun r hr => h r (by simpa [childrenAt] using hr)

lemma Tidy.comeBack (hs : s.Tidy) (g : SchemaRef → SchemaRef) :
    (s.comeBack g).keywords.Fresh ∧ (s.comeBack g).keywords.extensions.keys.Nodup := by
  have hperm := s.keywords.extensions.entries_sortByKey_perm
  exact ⟨fun e he => hs.extensions.fresh e (hperm.mem_iff.1 he),
    (hperm.map Prod.fst).nodup_iff.2 hs.extensions.distinct⟩

/-- The keywords without schemas are written as before. -/
lemma get?_comeBack (hs : s.Tidy) (hkey : key ∉ Keywords.childNames) :
    (s.comeBack g).toJson.get? key = s.toJson.get? key := by
  obtain ⟨hfresh, hdistinct⟩ := hs.comeBack g
  by_cases hknown : key ∈ Keywords.names
  · rw [get?_toJson_of_keyword hfresh hknown, get?_toJson_of_keyword hs.extensions.fresh hknown]
    exact congrArg _ (Keywords.members_ordered hs.keywords)
  · have hunknown : key ∉ Keywords.names ++ Keywords.childNames :=
      fun h => (List.mem_append.1 h).elim hknown hkey
    rw [get?_toJson_of_unknown hdistinct hunknown,
      get?_toJson_of_unknown hs.extensions.distinct hunknown, Json.lookup_eq_lookup,
      Json.lookup_eq_lookup]
    exact Table.find?_sortByKey s.keywords.extensions key

lemma isSome_get?_comeBack (hs : s.Tidy) :
    ((s.comeBack g).toJson.get? key).isSome = (s.toJson.get? key).isSome := by
  by_cases hkey : key ∈ Keywords.childNames
  · rw [get?_toJson_of_child (hs.comeBack g).1 hkey, get?_toJson_of_child hs.extensions.fresh hkey,
      isSome_lookup_comeBack hkey]
  · rw [get?_comeBack hs hkey]

/-- A keyword under which each schema is exchanged for one that is written alike is written as
before. -/
lemma get?_comeBack_of_childrenAt (hs : s.Tidy)
    (h : ∀ r ∈ s.childrenAt key, refJson (g r) = refJson r) :
    (s.comeBack g).toJson.get? key = s.toJson.get? key := by
  by_cases hkey : key ∈ Keywords.childNames
  · rw [get?_toJson_of_child (hs.comeBack g).1 hkey, get?_toJson_of_child hs.extensions.fresh hkey,
      lookup_comeBack hs.distinct hkey h]
  · exact get?_comeBack hs hkey

lemma toJson_comeBack (hs : s.Tidy) (h : ∀ r ∈ s.children, refJson (g r) = refJson r) :
    (s.comeBack g).toJson = s.toJson := by
  have hanswer (key : String) : (s.comeBack g).toJson.get? key = s.toJson.get? key :=
    get?_comeBack_of_childrenAt hs fun r hr => h r (mem_children_of_mem_childrenAt hr)
  obtain ⟨es, hes, hincreasing⟩ := exists_increasing_write Reference.toJson (s.comeBack g)
  obtain ⟨fs, hfs, hincreasing'⟩ := exists_increasing_write Reference.toJson s
  simp only [toJson, hes, hfs, Json.get?] at hanswer ⊢
  exact congrArg _ (Json.eq_of_lookup_eq hincreasing hincreasing' hanswer)

end ComeBack

/-- A schema with its tables in order is written as before. -/
lemma refJson_orderedRef {r : SchemaRef} (h : Every Tidy r) :
    refJson (orderedRef r) = refJson r := by
  induction h with
  | ref path => rw [orderedRef_ref]
  | inline hs _ ih =>
    rw [orderedRef_inline, refJson_inline, refJson_inline, ordered_eq_comeBack]
    exact toJson_comeBack hs ih

/-! ## Reading back -/

/-- What a schema or a reference comes back as. -/
def readBack (r : SchemaRef) : SchemaRef := (readNode? (.ofJson (refJson r))).getD r

/-- **Every tidy schema comes back**: it is read as something. -/
theorem readNode?_refJson {r : SchemaRef} (h : Every Tidy r) :
    readNode? (.ofJson (refJson r)) = some (readBack r) := by
  suffices hsome : (readNode? (.ofJson (refJson r))).isSome by
    obtain ⟨q, hq⟩ := Option.isSome_iff_exists.1 hsome
    rw [readBack, hq, Option.getD_some]
  induction h with
  | ref path =>
    rw [refJson_ref]
    rfl
  | @inline s hs hbelow ih =>
    rw [refJson_inline]
    rcases readNode?_toJson (.inline hs hbelow) with ⟨⟨path, -, hread⟩, -⟩ | ⟨-, -, hread⟩
    · rw [hread]
      rfl
    · rw [(hread readBack).2 fun r hr => ?_]
      · rfl
      · obtain ⟨q, hq⟩ := Option.isSome_iff_exists.1 (ih r hr)
        rw [readBack, hq, Option.getD_some]

/-- What is written with a textual `$ref` comes back as that reference. -/
lemma readBack_of_path? {r : SchemaRef} (h : Every Tidy r) {path : String}
    (hpath : (refJson r).path? = some path) : readBack r = .ref path := by
  rcases readNode?_ofJson (readNode?_refJson h) with ⟨other, hother, heq⟩ | ⟨hnone, -⟩
  · rw [heq, ← Option.some.inj (hpath.symm.trans hother)]
  · cases hpath.symm.trans hnone

/-- What is written without one comes back as a schema. -/
lemma readBack_of_path?_eq_none {r : SchemaRef} (h : Every Tidy r)
    (hpath : (refJson r).path? = none) :
    ∃ s : Schema, r = .inline s ∧ readBack r = .inline (s.comeBack readBack) := by
  cases r with
  | ref path =>
    rw [refJson_ref] at hpath
    cases hpath
  | inline s =>
    refine ⟨s, rfl, ?_⟩
    rw [refJson_inline] at hpath
    rcases readNode?_toJson h with ⟨⟨path, hsome, -⟩, -⟩ | ⟨-, -, hread⟩
    · cases hpath.symm.trans hsome
    · have hback := (hread readBack).2 fun r hr => readNode?_refJson (h.children r hr)
      rw [readBack, refJson_inline, hback, Option.getD_some]

/-- What is written alike comes back as the same. -/
lemma readBack_congr {r q : SchemaRef} (hr : Every Tidy r) (hq : Every Tidy q)
    (h : refJson r = refJson q) : readBack r = readBack q := by
  have hread := readNode?_refJson hr
  rw [h, readNode?_refJson hq] at hread
  exact (Option.some.inj hread).symm

/-- **A schema without a stray `$ref` is written as before when it has come back.** -/
theorem refJson_readBack {r : SchemaRef} (h : Every Tidy r)
    (hstraight : Every (fun s => s.keywords.Straight) r) : refJson (readBack r) = refJson r := by
  have hread := (readNode?_refJson_iff h).2 hstraight
  rw [readBack, hread, Option.getD_some, refJson_orderedRef h]

/-- A keyword that is written as that of a schema without stray `$ref`s is written as before when
it has come back. -/
lemma get?_comeBack_of_eq {s d : Schema} (hs : Every Tidy (.inline s)) (hd : Every Tidy (.inline d))
    (hstraight : Every (fun t => t.keywords.Straight) (.inline d)) {key : String}
    (heq : s.toJson.get? key = d.toJson.get? key) :
    (s.comeBack readBack).toJson.get? key = s.toJson.get? key := by
  by_cases hkey : key ∈ Keywords.childNames
  · refine get?_comeBack_of_childrenAt hs.node fun r hr => ?_
    rw [get?_toJson_of_child hs.node.extensions.fresh hkey,
      get?_toJson_of_child hd.node.extensions.fresh hkey] at heq
    have hmem := (mem_schemasUnder hs.node.distinct hkey).2 ⟨r, hr, rfl⟩
    rw [heq, mem_schemasUnder hd.node.distinct hkey] at hmem
    obtain ⟨q, hq, hqr⟩ := hmem
    have hrTidy := hs.children r (mem_children_of_mem_childrenAt hr)
    have hqTidy := hd.children q (mem_children_of_mem_childrenAt hq)
    rw [readBack_congr hrTidy hqTidy hqr.symm, ← hqr]
    exact refJson_readBack hqTidy (hstraight.children q (mem_children_of_mem_childrenAt hq))
  · exact get?_comeBack hs.node hkey

end Schema

end ApiLowering
