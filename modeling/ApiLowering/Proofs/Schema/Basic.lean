import ApiLowering.Canonical.Schema
import ApiLowering.Proofs.Json.Objects
import Mathlib.Data.List.Basic
import Mathlib.Tactic.Lemma
import Mathlib.Tactic.SplitIfs

/-!
# Schemas and what is below them

Every pass over schemas does the same to all children of a schema. The walks over the different
kinds of children are maps, and what holds of a schema as soon as it holds of its children holds of
every schema.

A written schema is an object: under the name of a keyword it has the value of that keyword, as long
as no unknown keyword goes by the name of a known one.

## Main definitions

* `Schema.children` — the schemas and references right below a schema.
* `Schema.mapChildren` — the schema with other children.
* `Schema.Every` — all schemas are of some kind.
* `Keywords.Fresh` — the unknown keywords have names of their own.
* `Keywords.known` — the keywords without the unknown ones.
* `Schema.Lawful` — a schema as readers return it: its unknown keywords have names of their own, and
  no property is declared twice.

## Main results

* `Schema.ref_induction` — induction from the leaves to the root.
* `Schema.canonical_eq` — the canonical form of a schema is that of its node over those of its
  children.
* `Schema.write_eq` — the members of a written schema.
* `Schema.get?_write_of_known` — the answer to the name of a known keyword.
* `Schema.itemsAt_write_allOf`, `Schema.itemsAt_write_required`,
  `Schema.mem_keysAt_write_properties` — what makes up the content of a schema.
-/

namespace ApiLowering

/-! ## Further properties -/

namespace Additional

variable {σ τ : Type}

/-- The schema of further properties. -/
def values? : Additional σ → Option σ
  | allowed _ => none
  | values schema => some schema

/-- Further properties with another schema. -/
def map (f : σ → τ) : Additional σ → Additional τ
  | allowed b => allowed b
  | values schema => values (f schema)

@[simp] lemma map_allowed (f : σ → τ) (b : Bool) : (allowed b).map f = .allowed b := rfl

@[simp] lemma map_values (f : σ → τ) (x : σ) : (values x).map f = .values (f x) := rfl

end Additional

namespace Schema

/-! ## Children -/

/-- The schemas and references right below a schema. -/
def children (s : Schema) : List SchemaRef :=
  s.properties.values ++ s.items.toList ++ (s.additional.bind Additional.values?).toList ++
    s.negated.toList ++ s.allOf ++ s.oneOf ++ s.anyOf

/-- The schema with other children. -/
def mapChildren (f : SchemaRef → SchemaRef) (s : Schema) : Schema :=
  { s with
    properties := s.properties.map f
    items := s.items.map f
    additional := s.additional.map (Additional.map f)
    negated := s.negated.map f
    allOf := s.allOf.map f
    oneOf := s.oneOf.map f
    anyOf := s.anyOf.map f }

lemma mem_children {s : Schema} {r : SchemaRef} :
    r ∈ s.children ↔ r ∈ s.properties.values ∨ s.items = some r ∨
      s.additional = some (.values r) ∨ s.negated = some r ∨ r ∈ s.allOf ∨ r ∈ s.oneOf ∨
      r ∈ s.anyOf := by
  have hadditional : (s.additional.bind Additional.values?) = some r ↔
      s.additional = some (.values r) := by
    rcases s.additional with - | ⟨b⟩ | ⟨x⟩ <;> simp [Additional.values?]
  simp only [children, List.mem_append, Option.mem_toList, hadditional, or_assoc]

lemma mem_children_of_mem_allOf {s : Schema} {r : SchemaRef} (h : r ∈ s.allOf) :
    r ∈ s.children :=
  mem_children.2 (by simp [h])

lemma sizeOf_lt_of_mem_values {t : Table SchemaRef} {r : SchemaRef} (h : r ∈ t.values) :
    sizeOf r < sizeOf t := by
  obtain ⟨es⟩ := t
  obtain ⟨⟨k, v⟩, he, rfl⟩ := List.mem_map.1 h
  have := List.sizeOf_lt_of_mem he
  simp only [Table.mk.sizeOf_spec, Prod.mk.sizeOf_spec] at *
  omega

/-- A child is smaller than its schema. -/
lemma sizeOf_lt_of_mem_children {s : Schema} {r : SchemaRef} (h : r ∈ s.children) :
    sizeOf r < sizeOf s := by
  obtain ⟨keywords, properties, items, additional, negated, allOf, oneOf, anyOf⟩ := s
  simp only [mem_children] at h
  simp only [Schema.mk.sizeOf_spec]
  rcases h with h | rfl | rfl | rfl | h | h | h
  · have := sizeOf_lt_of_mem_values h
    omega
  · simp only [Option.some.sizeOf_spec]
    omega
  · simp only [Option.some.sizeOf_spec, Additional.values.sizeOf_spec]
    omega
  · simp only [Option.some.sizeOf_spec]
    omega
  all_goals
    have := List.sizeOf_lt_of_mem h
    omega

/-- **Induction from the leaves to the root**: what holds of references, and of a schema as soon as
it holds of its children, holds everywhere. -/
@[elab_as_elim]
theorem ref_induction {motive : SchemaRef → Prop} (ref : ∀ path, motive (.ref path))
    (inline : ∀ s : Schema, (∀ r ∈ s.children, motive r) → motive (.inline s)) :
    ∀ r, motive r
  | .ref path => ref path
  | .inline s => inline s fun r _ => ref_induction ref inline r
termination_by r => sizeOf r
decreasing_by
  rename_i h
  rw [Referable.inline.sizeOf_spec]
  exact Nat.lt_add_left 1 (sizeOf_lt_of_mem_children h)

/-! ## What holds everywhere -/

/-- The schema and all schemas below it are of some kind. -/
inductive Every (P : Schema → Prop) : SchemaRef → Prop
  | ref (path : String) : Every P (.ref path)
  | inline {s : Schema} : P s → (∀ r ∈ s.children, Every P r) → Every P (.inline s)

lemma Every.node {P : Schema → Prop} {s : Schema} (h : Every P (.inline s)) : P s := by
  cases h
  assumption

lemma Every.children {P : Schema → Prop} {s : Schema} (h : Every P (.inline s)) :
    ∀ r ∈ s.children, Every P r := by
  cases h
  assumption

lemma Every.mono {P Q : Schema → Prop} (h : ∀ s, P s → Q s) {r : SchemaRef} (hr : Every P r) :
    Every Q r := by
  induction hr with
  | ref path => exact .ref path
  | inline hs _ ih => exact .inline (h _ hs) ih

lemma Every.and {P Q : Schema → Prop} {r : SchemaRef} (hP : Every P r) (hQ : Every Q r) :
    Every (fun s => P s ∧ Q s) r := by
  induction hP with
  | ref path => exact .ref path
  | inline hs _ ih => exact .inline ⟨hs, hQ.node⟩ fun r hr => ih r hr (hQ.children r hr)

/-! ## Maps over children -/

lemma mapChildren_congr {f g : SchemaRef → SchemaRef} {s : Schema}
    (h : ∀ r ∈ s.children, f r = g r) : s.mapChildren f = s.mapChildren g := by
  obtain ⟨keywords, ⟨es⟩, items, additional, negated, allOf, oneOf, anyOf⟩ := s
  simp only [mem_children, Table.values, List.mem_map] at h
  simp only [mapChildren, Table.map, mk.injEq, true_and, Table.mk.injEq]
  refine ⟨?_, ?_, ?_, ?_, ?_, ?_, ?_⟩
  · exact List.map_congr_left fun e he => by rw [h e.2 (.inl ⟨e, he, rfl⟩)]
  · exact Option.map_congr fun r hr => h r (by simp_all)
  · rcases additional with - | ⟨b⟩ | ⟨r⟩
    · rfl
    · rfl
    · simp [h r]
  · exact Option.map_congr fun r hr => h r (by simp_all)
  · exact List.map_congr_left fun r hr => h r (by simp [hr])
  · exact List.map_congr_left fun r hr => h r (by simp [hr])
  · exact List.map_congr_left fun r hr => h r (by simp [hr])

lemma children_mapChildren (f : SchemaRef → SchemaRef) (s : Schema) :
    (s.mapChildren f).children = s.children.map f := by
  obtain ⟨keywords, properties, items, additional, negated, allOf, oneOf, anyOf⟩ := s
  rcases items with - | i <;> rcases additional with - | ⟨b⟩ | ⟨r⟩ <;>
    rcases negated with - | n <;>
    simp [children, mapChildren, Table.values, Table.map, Additional.values?]

lemma mapChildren_id (s : Schema) : s.mapChildren id = s := by
  obtain ⟨keywords, ⟨es⟩, items, additional, negated, allOf, oneOf, anyOf⟩ := s
  rcases additional with - | ⟨b⟩ | ⟨r⟩ <;> simp [mapChildren, Table.map]

/-! ## Canonical forms -/

section Canonical

variable (sw : Canonical.Switches)

lemma canonicalEntries_eq (es : List (String × SchemaRef)) :
    canonicalEntries sw es = es.map fun e => (e.1, canonicalRef sw e.2) := by
  induction es with
  | nil => rw [canonicalEntries, List.map_nil]
  | cons e es ih =>
    obtain ⟨k, r⟩ := e
    rw [canonicalEntries, canonicalEntry, ih, List.map_cons]

lemma canonicalTable_eq (t : Table SchemaRef) :
    canonicalTable sw t = t.map (canonicalRef sw) := by
  obtain ⟨es⟩ := t
  rw [canonicalTable, canonicalEntries_eq, Table.map]

lemma canonicalOption_eq (o : Option SchemaRef) :
    canonicalOption sw o = o.map (canonicalRef sw) := by
  cases o <;> rw [canonicalOption] <;> rfl

lemma canonicalAdditional_eq (o : Option (Additional SchemaRef)) :
    canonicalAdditional sw o = o.map (Additional.map (canonicalRef sw)) := by
  rcases o with - | ⟨b⟩ | ⟨r⟩ <;> rw [canonicalAdditional] <;> try rw [canonicalValues]
  all_goals rfl

lemma canonicalList_eq (rs : List SchemaRef) :
    canonicalList sw rs = rs.map (canonicalRef sw) := by
  induction rs with
  | nil => rw [canonicalList, List.map_nil]
  | cons r rs ih => rw [canonicalList, ih, List.map_cons]

/-- The canonical form of a schema is that of its node over those of its children. -/
theorem canonical_eq (s : Schema) :
    canonical sw s = canonicalNode sw (s.mapChildren (canonicalRef sw)) := by
  obtain ⟨keywords, properties, items, additional, negated, allOf, oneOf, anyOf⟩ := s
  simp only [canonical, mapChildren, canonicalTable_eq, canonicalOption_eq,
    canonicalAdditional_eq, canonicalList_eq]

@[simp] lemma canonicalRef_ref (path : String) : canonicalRef sw (.ref path) = .ref path := by
  rw [canonicalRef]

lemma canonicalRef_inline (s : Schema) :
    canonicalRef sw (.inline s) = canonicalNode sw (s.mapChildren (canonicalRef sw)) := by
  rw [canonicalRef, canonical_eq]

end Canonical

/-! ## Members of written schemas -/

section Write

variable (reference : String → Json)

lemma writeEntries_eq (es : List (String × SchemaRef)) :
    writeEntries reference es = es.map fun e => (e.1, writeRef reference e.2) := by
  induction es with
  | nil => rw [writeEntries, List.map_nil]
  | cons e es ih =>
    obtain ⟨k, r⟩ := e
    rw [writeEntries, writeEntry, ih, List.map_cons]

lemma writeTable_eq (t : Table SchemaRef) :
    writeTable reference t = Json.tableMember "properties" t (writeRef reference) := by
  obtain ⟨es⟩ := t
  rw [writeTable, writeEntries_eq]
  rfl

lemma writeOption_eq (name : String) (o : Option SchemaRef) :
    writeOption reference name o = Json.member? name o (writeRef reference) := by
  cases o <;> rw [writeOption] <;> rfl

/-- Further properties as a value. -/
def additionalJson : Additional SchemaRef → Json
  | .allowed b => .bool b
  | .values r => writeRef reference r

lemma writeAdditional_eq (o : Option (Additional SchemaRef)) :
    writeAdditional reference o =
      Json.member? "additionalProperties" o (additionalJson reference) := by
  rcases o with - | ⟨b⟩ | ⟨r⟩ <;> rw [writeAdditional] <;> try rw [writeValues]
  all_goals rfl

lemma writeItems_eq (rs : List SchemaRef) :
    writeItems reference rs = rs.map (writeRef reference) := by
  induction rs with
  | nil => rw [writeItems, List.map_nil]
  | cons r rs ih => rw [writeItems, ih, List.map_cons]

/-- The members of a schema that hold its children. -/
def childMembers (s : Schema) : List (String × Json) :=
  Json.tableMember "properties" s.properties (writeRef reference) ++
    Json.member? "items" s.items (writeRef reference) ++
    Json.member? "additionalProperties" s.additional (additionalJson reference) ++
    Json.member? "not" s.negated (writeRef reference) ++
    Json.listMember "allOf" s.allOf (writeRef reference) ++
    Json.listMember "oneOf" s.oneOf (writeRef reference) ++
    Json.listMember "anyOf" s.anyOf (writeRef reference)

/-- The members of a written schema. -/
theorem write_eq (s : Schema) :
    s.write reference = .object (s.childMembers reference ++ s.keywords.members) := by
  obtain ⟨keywords, properties, items, additional, negated, allOf, oneOf, anyOf⟩ := s
  simp only [write, childMembers, writeTable_eq, writeOption_eq, writeAdditional_eq, writeItems_eq,
    Json.listMember]

@[simp] lemma writeRef_ref (path : String) : writeRef reference (.ref path) = reference path := by
  rw [writeRef]

@[simp] lemma writeRef_inline (s : Schema) : writeRef reference (.inline s) = s.write reference := by
  rw [writeRef]

end Write

end Schema

/-! ## Single members -/

namespace Json

lemma lookup_member? {α : Type} (key name : String) (value : Option α) (write : α → Json) :
    lookup key (member? name value write) = if name = key then value.map write else none := by
  cases value with
  | none => simp [member?, lookup]
  | some v => simp [member?, lookup]

lemma lookup_listMember {α : Type} (key name : String) (values : List α) (write : α → Json) :
    lookup key (listMember name values write) =
      if name = key ∧ values ≠ [] then some (.array (values.map write)) else none := by
  cases values with
  | nil => simp [listMember, arrayMember, lookup]
  | cons v vs => simp [listMember, arrayMember, lookup]

lemma lookup_tableMember {α : Type} (key name : String) (t : Table α) (write : α → Json) :
    lookup key (tableMember name t write) =
      if name = key ∧ t.isEmpty = false then some (ofTable t write) else none := by
  cases h : t.isEmpty <;> simp [tableMember, lookup, h]

lemma keys_member? {α : Type} (name : String) (value : Option α) (write : α → Json) :
    ((member? name value write).map Prod.fst).Sublist [name] := by
  cases value <;> simp [member?]

lemma keys_listMember {α : Type} (name : String) (values : List α) (write : α → Json) :
    ((listMember name values write).map Prod.fst).Sublist [name] := by
  rw [listMember, arrayMember]
  split <;> simp

lemma keys_tableMember {α : Type} (name : String) (t : Table α) (write : α → Json) :
    ((tableMember name t write).map Prod.fst).Sublist [name] := by
  rw [tableMember]
  split <;> simp

end Json

/-! ## Keywords without schemas -/

namespace Keywords

/-- The unknown keywords have names of their own. -/
def Fresh (k : Keywords) : Prop :=
  ∀ e ∈ k.extensions.entries, e.1 ∉ names ++ childNames

/-- The keywords without the unknown ones. -/
def known (k : Keywords) : Keywords := { k with extensions := ⟨[]⟩ }

lemma members_eq (k : Keywords) : k.members = k.known.members ++ k.extensions.entries := by
  unfold members known
  simp only [List.append_nil]

lemma keys_known (k : Keywords) : (k.known.members.map Prod.fst).Sublist names := by
  have hnames : names = ["type"] ++ ["format"] ++ ["title"] ++ ["description"] ++ ["default"] ++
      ["nullable"] ++ ["deprecated"] ++ ["required"] ++ ["discriminator"] ++ ["enum"] ++
      ["minimum"] ++ ["maximum"] ++ ["exclusiveMinimum"] ++ ["exclusiveMaximum"] ++
      ["minLength"] ++ ["maxLength"] ++ ["pattern"] ++ ["minItems"] ++ ["maxItems"] ++
      ["uniqueItems"] ++ ["readOnly"] ++ ["writeOnly"] ++ ["const"] ++ ["example"] ++
      ["examples"] ++ ["externalDocs"] ++ [] := rfl
  rw [hnames]
  unfold members
  simp only [List.map_append]
  repeat' with_reducible apply List.Sublist.append
  all_goals first
    | exact Json.keys_member? _ _ _
    | exact Json.keys_listMember _ _ _
    | exact List.Sublist.refl _

/-- The keywords with schemas have names of their own. -/
lemma not_mem_names_of_child : ∀ key ∈ childNames, key ∉ names := by decide

lemma lookup_known_of_child (k : Keywords) {key : String} (hkey : key ∈ childNames) :
    Json.lookup key k.known.members = none :=
  Json.lookup_eq_none_iff.2 fun h => not_mem_names_of_child key hkey (k.keys_known.subset h)

end Keywords

/-! ## Answers of written schemas -/

namespace Schema

/-- The unknown keywords have names of their own, and no property is declared twice. -/
structure Lawful (s : Schema) : Prop where
  fresh : s.keywords.Fresh
  distinct : s.properties.keys.Nodup

lemma Lawful.mapChildren {s : Schema} (hs : s.Lawful) (f : SchemaRef → SchemaRef) :
    (s.mapChildren f).Lawful :=
  ⟨hs.fresh, (Table.keys_map f s.properties).symm ▸ hs.distinct⟩

variable (reference : String → Json)

lemma keys_childMembers (s : Schema) :
    ((s.childMembers reference).map Prod.fst).Sublist
      ["properties", "items", "additionalProperties", "not", "allOf", "oneOf", "anyOf"] := by
  have hnames : ["properties", "items", "additionalProperties", "not", "allOf", "oneOf", "anyOf"] =
      ["properties"] ++ ["items"] ++ ["additionalProperties"] ++ ["not"] ++ ["allOf"] ++
        ["oneOf"] ++ ["anyOf"] := rfl
  rw [hnames, childMembers]
  simp only [List.map_append]
  repeat' with_reducible apply List.Sublist.append
  all_goals first
    | exact Json.keys_member? _ _ _
    | exact Json.keys_listMember _ _ _
    | exact Json.keys_tableMember _ _ _

/-- The members of the known keywords. -/
def knownMembers (s : Schema) : List (String × Json) :=
  s.childMembers reference ++ s.keywords.known.members

/-- Under its name, a written schema has each keyword with schemas. -/
lemma lookup_childMembers (s : Schema) :
    Json.lookup "properties" (s.childMembers reference) =
        Json.lookup "properties"
          (Json.tableMember "properties" s.properties (writeRef reference)) ∧
      Json.lookup "items" (s.childMembers reference) = s.items.map (writeRef reference) ∧
      Json.lookup "additionalProperties" (s.childMembers reference) =
        s.additional.map (additionalJson reference) ∧
      Json.lookup "not" (s.childMembers reference) = s.negated.map (writeRef reference) ∧
      Json.lookup "allOf" (s.childMembers reference) =
        Json.lookup "allOf" (Json.listMember "allOf" s.allOf (writeRef reference)) ∧
      Json.lookup "oneOf" (s.childMembers reference) =
        Json.lookup "oneOf" (Json.listMember "oneOf" s.oneOf (writeRef reference)) ∧
      Json.lookup "anyOf" (s.childMembers reference) =
        Json.lookup "anyOf" (Json.listMember "anyOf" s.anyOf (writeRef reference)) := by
  simp [childMembers, Json.lookup_append, Json.lookup_member?, Json.lookup_listMember,
    Json.lookup_tableMember]

lemma write_eq_object (s : Schema) :
    s.write reference = .object (s.knownMembers reference ++ s.keywords.extensions.entries) := by
  rw [write_eq, Keywords.members_eq, knownMembers, List.append_assoc]

lemma nodup_knownMembers (s : Schema) : ((s.knownMembers reference).map Prod.fst).Nodup := by
  rw [knownMembers, List.map_append]
  exact ((keys_childMembers reference s).append s.keywords.keys_known).nodup (by decide +kernel)

lemma knownMembers_subset {s : Schema} {key : String}
    (h : key ∈ (s.knownMembers reference).map Prod.fst) :
    key ∈ Keywords.names ++ Keywords.childNames := by
  rw [knownMembers, List.map_append, List.mem_append] at h
  rw [List.mem_append]
  rcases h with h | h
  · have := (keys_childMembers reference s).subset h
    refine .inr ?_
    simp only [Keywords.childNames, List.mem_cons] at this ⊢
    tauto
  · exact .inl (s.keywords.keys_known.subset h)

/-- The members of a written schema are in order. -/
lemma exists_increasing_write (s : Schema) :
    ∃ es, s.write reference = .members es ∧ Json.Increasing es := by
  rw [write_eq, Json.object_eq]
  exact ⟨_, rfl, Json.increasing_entered _⟩

/-- The answer of a written schema: that of its unknown keywords, or else that of its known ones. -/
lemma get?_write (s : Schema) (key : String) :
    (s.write reference).get? key =
      (Json.lookup key s.keywords.extensions.entries.reverse).or
        (Json.lookup key (s.knownMembers reference)) := by
  rw [write_eq_object, Json.object_eq, Json.get?, Json.lookup_entered, List.reverse_append,
    Json.lookup_append, ← Json.lookup_entered key (s.knownMembers reference),
    Json.lookup_entered_of_nodup key (nodup_knownMembers reference s)]

/-- The answer of a written schema to the name of a known keyword. -/
lemma get?_write_of_known {s : Schema} (h : s.keywords.Fresh) {key : String}
    (hkey : key ∈ Keywords.names ++ Keywords.childNames) :
    (s.write reference).get? key = Json.lookup key (s.knownMembers reference) := by
  rw [get?_write, Json.lookup_eq_none_iff.2, Option.none_or]
  intro hmem
  rw [List.map_reverse, List.mem_reverse, List.mem_map] at hmem
  obtain ⟨e, he, rfl⟩ := hmem
  exact h e he hkey

/-- The answer of a written schema to any other name. -/
lemma get?_write_of_unknown {s : Schema} {key : String}
    (hkey : key ∉ Keywords.names ++ Keywords.childNames) :
    (s.write reference).get? key = Json.lookup key s.keywords.extensions.entries.reverse := by
  rw [get?_write, Json.lookup_eq_none_iff.2 fun h => hkey (knownMembers_subset reference h),
    Option.or_none]

lemma get?_write_properties {s : Schema} (h : s.keywords.Fresh) :
    (s.write reference).get? "properties" =
      if s.properties.isEmpty then none
      else some (Json.ofTable s.properties (writeRef reference)) := by
  rw [get?_write_of_known reference h (by decide), knownMembers, childMembers]
  unfold Keywords.members
  cases hempty : s.properties.isEmpty <;>
    simp [Json.lookup_append, Json.lookup_member?, Json.lookup_listMember,
      Json.lookup_tableMember, Keywords.known, hempty]

/-- The names of the keywords that hold parts and alternatives. -/
def listNames : List String := ["allOf", "oneOf", "anyOf"]

/-- The parts or the alternatives of a schema, by the name of the keyword. -/
def listed (s : Schema) (key : String) : List SchemaRef :=
  if key = "allOf" then s.allOf else if key = "oneOf" then s.oneOf else s.anyOf

lemma mem_children_of_mem_listed {s : Schema} {key : String} {r : SchemaRef}
    (h : r ∈ s.listed key) : r ∈ s.children := by
  rw [listed] at h
  split_ifs at h <;> exact mem_children.2 (by simp [h])

lemma get?_write_listed {s : Schema} (h : s.keywords.Fresh) {key : String}
    (hkey : key ∈ listNames) :
    (s.write reference).get? key =
      if s.listed key = [] then none else some (.array ((s.listed key).map (writeRef reference))) := by
  have hknown : key ∈ Keywords.names ++ Keywords.childNames := by
    refine List.mem_append_right _ (List.Sublist.subset ?_ hkey)
    decide
  rw [get?_write_of_known reference h hknown, knownMembers, childMembers]
  unfold Keywords.members
  simp only [listNames, List.mem_cons, List.not_mem_nil, or_false] at hkey
  by_cases hempty : s.listed key = [] <;> rcases hkey with rfl | rfl | rfl <;>
    simp_all [Json.lookup_append, Json.lookup_member?, Json.lookup_listMember,
      Json.lookup_tableMember, Keywords.known, listed]

lemma get?_write_required {s : Schema} (h : s.keywords.Fresh) :
    (s.write reference).get? "required" =
      if s.keywords.required = [] then none
      else some (.array (s.keywords.required.map .string)) := by
  rw [get?_write_of_known reference h (by decide), knownMembers, childMembers]
  unfold Keywords.members
  by_cases hempty : s.keywords.required = [] <;>
    simp [Json.lookup_append, Json.lookup_member?, Json.lookup_listMember,
      Json.lookup_tableMember, Keywords.known, hempty]

/-- The parts and alternatives of a schema are written under their names. -/
lemma itemsAt_write_listed {s : Schema} (h : s.keywords.Fresh) {key : String}
    (hkey : key ∈ listNames) :
    (s.write reference).itemsAt key = (s.listed key).map (writeRef reference) := by
  rw [Json.itemsAt, get?_write_listed reference h hkey]
  split_ifs with hempty
  · simp [hempty]
  · rfl

lemma arrayAt_write_listed {s : Schema} (h : s.keywords.Fresh) {key : String}
    (hkey : key ∈ listNames) : Json.ArrayAt key (s.write reference) := by
  rw [Json.ArrayAt, get?_write_listed reference h hkey]
  split_ifs
  · exact .inl rfl
  · exact .inr ⟨_, rfl⟩

/-- The parts of a schema are written under their name. -/
lemma itemsAt_write_allOf {s : Schema} (h : s.keywords.Fresh) :
    (s.write reference).itemsAt "allOf" = s.allOf.map (writeRef reference) :=
  itemsAt_write_listed reference h (by decide)

/-- The required names of a schema are written under their name. -/
lemma itemsAt_write_required {s : Schema} (h : s.keywords.Fresh) :
    (s.write reference).itemsAt "required" = s.keywords.required.map .string := by
  rw [Json.itemsAt, get?_write_required reference h]
  split_ifs with hempty
  · simp [hempty]
  · rfl

/-- The properties of a schema are written under their name. -/
lemma mem_keysAt_write_properties {s : Schema} (h : s.keywords.Fresh) {n : String} :
    n ∈ (s.write reference).keysAt "properties" ↔ n ∈ s.properties.keys := by
  rw [Json.keysAt, get?_write_properties reference h]
  split_ifs with hempty
  · have : s.properties.entries = [] := by simpa [Table.isEmpty] using hempty
    simp [Table.keys, this]
  · simp only [Json.ofTable, Json.object_eq, Json.mem_keys_entered, List.map_map, Table.keys]
    rfl

end Schema

end ApiLowering
