import ApiLowering.Proofs.Codec.Records
import ApiLowering.Proofs.Schema.Content

/-!
# The codec of schemas

A schema is read from its fields, as a record that holds further schemas. So the law of its codec is
an induction over the schemas below it, and each of its keywords comes back by the law of its kind.

## Main definitions

* `Schema.ordered`, `Schema.orderedRef` — a schema with its tables in order.
* `Schema.comeBack` — a schema with its tables in order and other schemas below it.
* `Schema.Tidy` — a schema as readers return it, apart from the schemas below it.
* `Schema.SoundNode` — a schema that is tidy, or straight.
* `Codec.schema` — the codec of schemas and references to them.

## Main results

* `Schema.readChildren?_iff` — the schemas that a record holds, by its fields.
* `Schema.readNode?_toJson` — what is written of a tidy schema is a reference, or comes back.
* `Schema.readNode?_refJson_iff` — a tidy schema comes back exactly if it is straight.
* `Schema.every_of_readNode?` — what is read from a sound tree is sound everywhere.
-/

namespace ApiLowering

/-! ## Keywords without schemas -/

lemma SchemaType.ofText?_text (t : SchemaType) : SchemaType.ofText? t.text = some t := by
  cases t <;> rfl

/-- Basic types. -/
def Codec.schemaType : Codec SchemaType :=
  .choice SchemaType.ofText? SchemaType.all SchemaType.text SchemaType.ofText?_text

/-- Type keywords. -/
@[simps! -fullyApplied read write inOrder]
def Codec.typeSet : Codec TypeSet where
  read := TypeSet.read?
  write := TypeSet.toJson
  inOrder t := t
  Sound _ _ := True
  reads_iff {x} _ := by
    refine iff_of_true ?_ trivial
    cases x with
    | one t => exact congrArg (Option.map TypeSet.one) ((schemaType.reads_iff trivial).2 trivial)
    | several ts =>
      have hread := (schemaType.list.reads_iff fun t _ => trivial).2 fun t (_ : t ∈ ts) => trivial
      simp only [list_inOrder, schemaType, choice_inOrder, List.map_id'] at hread
      rw [TypeSet.toJson, Json.ofStrings, List.map_map]
      exact congrArg (Option.map TypeSet.several) hread
  sound_of_read _ _ := trivial
  inOrder_inOrder _ := rfl
  straight_inOrder := .rfl
  tidy_write {x} _ := by
    cases x with
    | one t => exact .string _
    | several ts =>
      refine .array (List.forall_mem_map.2 fun _ _ => .string _)
  isNull_of_write {_ _ x} _ _ h := by cases x <;> cases h

/-- A discriminator with its mapping in order. -/
def Discriminator.ordered (d : Discriminator) : Discriminator :=
  { d with mapping := d.mapping.sortByKey }

@[simp] lemma Discriminator.ordered_ordered (d : Discriminator) :
    d.ordered.ordered = d.ordered := by
  simp [ordered]

/-- The fields of a discriminator. -/
@[simps -fullyApplied inOrder]
def Discriminator.layout : Layout Discriminator where
  inOrder := Discriminator.ordered
  names := ["propertyName", "mapping"]
  fields := [
    .required "propertyName" .text Discriminator.propertyName,
    .table "mapping" .text Discriminator.mapping]
  distinct := by decide +kernel
  named := by decide +kernel
  inOrder_inOrder := Discriminator.ordered_ordered
  becomes := by simp [Discriminator.ordered, Table.map_id']

/-- Discriminators. -/
@[simps! -fullyApplied read write inOrder]
def Codec.discriminator : Codec Discriminator :=
  .closed Discriminator.layout Discriminator.read? Discriminator.toJson
    (fun t x => by
      cases x
      simp [Discriminator.read?, Layout.Reads, Discriminator.layout, Option.bind_eq_some_iff])
    fun x => by simp [Discriminator.toJson, Layout.members, Discriminator.layout]

@[simp] lemma Codec.sound_typeSet {k : Soundness} {t : TypeSet} : typeSet.Sound k t := trivial

@[simp] lemma Codec.sound_discriminator {k : Soundness} {d : Discriminator} :
    discriminator.Sound k d ↔ (k = .tidy → d.mapping.keys.Nodup) := by
  change Discriminator.layout.Sound k d ↔ _
  simp [Layout.Sound, Discriminator.layout]

namespace Keywords

/-- The keywords with their tables in order. -/
def ordered (k : Keywords) : Keywords :=
  { k with
    discriminator := k.discriminator.map Discriminator.ordered
    extensions := k.extensions.sortByKey }

@[simp] lemma ordered_ordered (k : Keywords) : k.ordered.ordered = k.ordered := by
  simp [ordered, Function.comp_def]

/-- The fields of the keywords without schemas. -/
def layout : Layout Keywords where
  inOrder := ordered
  names := names
  fields := [
    .optional "type" .typeSet types, .optional "format" .text format,
    .optional "title" .text title, .optional "description" .text description,
    .optional "default" .value defaultValue, .optional "nullable" .bool nullable,
    .optional "deprecated" .bool deprecated, .list "required" .text required,
    .optional "discriminator" .discriminator discriminator, .list "enum" .value enumValues,
    .optional "minimum" .number minimum, .optional "maximum" .number maximum,
    .optional "exclusiveMinimum" .value exclusiveMinimum,
    .optional "exclusiveMaximum" .value exclusiveMaximum, .optional "minLength" .nat minLength,
    .optional "maxLength" .nat maxLength, .optional "pattern" .text pattern,
    .optional "minItems" .nat minItems, .optional "maxItems" .nat maxItems,
    .optional "uniqueItems" .bool uniqueItems, .optional "readOnly" .bool readOnly,
    .optional "writeOnly" .bool writeOnly, .optional "const" .value constValue,
    .optional "example" .value sample, .optional "examples" .value samples,
    .optional "externalDocs" .value externalDocs]
  distinct := by decide +kernel
  named := by decide +kernel
  inOrder_inOrder := ordered_ordered
  becomes := by simp [ordered]

lemma read?_iff {es : List (Leaf × Tree)} {k : Keywords} :
    read? es = some k ↔ ∃ f, Fields.ofEntries? (names ++ childNames) es = some f ∧
      layout.Reads f k ∧ f.extensions? = some k.extensions := by
  cases k
  unfold read?
  simp [Layout.Reads, layout, ↓andThen_eq_some_iff, and_assoc]

lemma members_known (k : Keywords) : k.known.members = layout.members k := by
  unfold members known Layout.members layout
  simp only [List.flatMap_cons, List.flatMap_nil, Field.members_optional, Field.members_list,
    Codec.text_write, Codec.bool_write, Codec.nat_write, Codec.number_write, Codec.value_write,
    Codec.typeSet_write, Codec.discriminator_write, List.append_assoc, List.append_nil]

/-- Nothing about the keywords without schemas is taken for a reference. -/
lemma sound_straight (k : Keywords) : layout.Sound .straight k := by
  simp [Layout.Sound, layout]

end Keywords

/-! ## The schemas of a record -/

namespace Schema

/-- Reads what is said of further properties. -/
def readAdditional? : Tree → Option (Additional SchemaRef)
  | .leaf ⟨.bool b, _⟩ => some (.allowed b)
  | t => (readNode? t).map .values

lemma readEntries?_eq_mapM (es : List (Leaf × Tree)) :
    readEntries? es = es.mapM fun e => do return (← e.1.text?, ← readNode? e.2) := by
  induction es with
  | nil => rw [readEntries?, List.mapM_nil]; rfl
  | cons e es ih => rw [readEntries?, readEntry?, ih, List.mapM_cons]

lemma readItems?_eq_mapM (xs : List Tree) : readItems? xs = xs.mapM readNode? := by
  induction xs with
  | nil => rw [readItems?, List.mapM_nil]; rfl
  | cons x xs ih => rw [readItems?, ih, List.mapM_cons]

section Sound

variable {k : Soundness} {t : Tree} (ht : t.Sound k)

include ht

/-- The table of a sound tree. -/
lemma readTable?_eq : readTable? t = Tree.table? readNode? t := by
  cases ht with
  | leaf hl =>
    obtain ⟨s, -, rfl⟩ := hl
    cases s <;> rfl
  | list => rfl
  | record =>
    rw [readTable?, readEntries?_eq_mapM]
    exact Option.map_eq_bind

lemma readList?_eq : readList? t = Tree.listOf? readNode? t := by
  cases ht with
  | leaf hl =>
    obtain ⟨s, -, rfl⟩ := hl
    cases s <;> rfl
  | list =>
    rw [readList?, readItems?_eq_mapM]
    rfl
  | record => rfl

lemma optional?_eq : optional? t (readNode? t) =
    (do if ← t.isNull? then return none else return some (← readNode? t)) := by
  cases ht with
  | leaf hl =>
    obtain ⟨s, -, rfl⟩ := hl
    cases s <;> rfl
  | list => rfl
  | @record es =>
    change (readNode? _).map some = (readNode? _).bind _
    cases readNode? (.record es) <;> rfl

lemma additional?_eq : additional? t (readNode? t) =
    (do if ← t.isNull? then return none else return some (← readAdditional? t)) := by
  cases ht with
  | leaf hl =>
    obtain ⟨s, -, rfl⟩ := hl
    cases s <;> rfl
  | list => rfl
  | @record es =>
    change (readNode? _).map _ = ((readNode? _).map _).bind _
    cases readNode? (.record es) <;> rfl

end Sound

/-- What the fields of a record say of the schemas in it. -/
def ReadsChildren (f : Fields) (s : Schema) : Prop :=
  f.defaulted? "properties" (Tree.table? readNode?) {} = some s.properties ∧
    f.optional? "items" readNode? = some s.items ∧
    f.optional? "additionalProperties" readAdditional? = some s.additional ∧
    f.optional? "not" readNode? = some s.negated ∧
    f.defaulted? "allOf" (Tree.listOf? readNode?) [] = some s.allOf ∧
    f.defaulted? "oneOf" (Tree.listOf? readNode?) [] = some s.oneOf ∧
    f.defaulted? "anyOf" (Tree.listOf? readNode?) [] = some s.anyOf

/-- A schema without what it says under one of the keywords that hold schemas. -/
def without (key : String) (s : Schema) : Schema :=
  match key with
  | "properties" => { s with properties := {} }
  | "items" => { s with items := none }
  | "not" => { s with negated := none }
  | "additionalProperties" => { s with additional := none }
  | "allOf" => { s with allOf := [] }
  | "oneOf" => { s with oneOf := [] }
  | "anyOf" => { s with anyOf := [] }
  | _ => s

lemma readsChildren_congr {f g : Fields} {s : Schema}
    (hget : ∀ name ∈ Keywords.childNames, f.get? name = g.get? name)
    (hf : f.positional = g.positional) : ReadsChildren f s ↔ ReadsChildren g s := by
  simp only [Keywords.childNames, List.forall_mem_cons] at hget
  obtain ⟨hproperties, hadditional, hitems, hallOf, honeOf, hanyOf, hnot, -⟩ := hget
  simp only [ReadsChildren, Fields.defaulted?_congr hproperties, Fields.optional?_congr hitems hf,
    Fields.optional?_congr hadditional hf, Fields.optional?_congr hnot hf,
    Fields.defaulted?_congr hallOf, Fields.defaulted?_congr honeOf, Fields.defaulted?_congr hanyOf]

/-- A keyword that holds schemas is read beside those that were read before. -/
lemma exists_readChild?_iff {k : Soundness} {key : Leaf} {t : Tree} (ht : t.Sound k)
    {f rest : Fields} {own : String} (hkey : key.text? = some own) (hown : own ∈ Keywords.childNames)
    (hf : f.positional = false) (hrest : rest.positional = false) (hnone : rest.get? own = none)
    (hget : ∀ other, f.get? other = if other = own then some t else rest.get? other) {s : Schema} :
    (∃ a, (a.keywords = {} ∧ ReadsChildren rest a) ∧ readChild? (key, t) a = some s) ↔
      s.keywords = {} ∧ ReadsChildren f s := by
  have hsame : f.get? own = some t := by rw [hget, if_pos rfl]
  have hother (name : String) (hne : name ≠ own) : f.get? name = rest.get? name := by
    rw [hget, if_neg hne]
  have hpositional : f.positional = rest.positional := hf.trans hrest.symm
  obtain ⟨blank, hblank⟩ : ∃ blank, blank = s.without own := ⟨_, rfl⟩
  simp only [readChild?, hkey]
  -- The keywords differ in their readers only, which `ReadsChildren` has as well.
  simp only [Keywords.childNames, List.mem_cons, List.not_mem_nil, or_false] at hown
  rcases hown with rfl | rfl | rfl | rfl | rfl | rfl | rfl
  all_goals
    simp (disch := decide) only [ReadsChildren, Fields.optional?_of_get? hsame,
      Fields.defaulted?_of_get? hsame, Fields.optional?_of_missing hnone hrest,
      Fields.defaulted?_of_missing hnone, Fields.optional?_congr (hother _ _) hpositional,
      Fields.defaulted?_congr (hother _ _), readTable?_eq ht, readList?_eq ht, optional?_eq ht,
      additional?_eq ht]
    constructor
    · rintro ⟨a, ⟨hk, h⟩, hs⟩
      obtain ⟨child, hchild, rfl⟩ := Option.map_eq_some_iff.1 hs
      simp only [hk, h, hchild, and_self]
    · rintro ⟨hk, h⟩
      refine ⟨blank, by simp only [hblank, without, hk, h, and_self], ?_⟩
      cases s
      simp only [hblank, without, h, Option.map_some]

lemma readChild?_of_not_child {key : Leaf} {t : Tree} {s : Schema}
    (h : ∀ own, key.text? = some own → own ∉ Keywords.childNames) :
    readChild? (key, t) s = some s := by
  rw [readChild?]
  split
  case h_8 => rfl
  all_goals
    rename_i heq
    exact absurd (by decide) (h _ heq)

/-- **The schemas that a record holds** are read from its fields. -/
theorem readChildren?_iff {k : Soundness} {es : List (Leaf × Tree)} {f : Fields} {s : Schema}
    (hsound : ∀ e ∈ es, e.2.Sound k)
    (hf : Fields.ofEntries? (Keywords.names ++ Keywords.childNames) es = some f) :
    readChildren? es = some s ↔ s.keywords = {} ∧ ReadsChildren f s := by
  induction es generalizing f s with
  | nil =>
    obtain rfl := Option.some.inj hf
    rw [readChildren?]
    cases s
    simp only [ReadsChildren, Fields.defaulted?, Fields.optional?, Fields.get?, List.lookup_nil,
      Option.some.injEq, Schema.mk.injEq, Bool.false_eq_true, if_false]
    exact and_congr_left' eq_comm
  | cons e es ih =>
    obtain ⟨key, t⟩ := e
    have ht : t.Sound k := hsound (key, t) List.mem_cons_self
    obtain ⟨rest, hrest, -⟩ := Option.bind_eq_some_iff.1 hf
    have ih (s : Schema) := ih (s := s) (fun d hd => hsound d (List.mem_cons_of_mem _ hd)) hrest
    have hpositional := Fields.positional_of_ofEntries? hf
    have hpositional' := Fields.positional_of_ofEntries? hrest
    rw [readChildren?, Option.bind_eq_bind, Option.bind_eq_some_iff]
    simp only [ih]
    have hskip (hkey : ∀ own, key.text? = some own → own ∉ Keywords.childNames)
        (hget : ∀ name ∈ Keywords.childNames, f.get? name = rest.get? name) :
        (∃ a, (a.keywords = {} ∧ ReadsChildren rest a) ∧ readChild? (key, t) a = some s) ↔
          s.keywords = {} ∧ ReadsChildren f s := by
      simp only [readChild?_of_not_child hkey, Option.some.injEq, exists_eq_right]
      rw [readsChildren_congr hget (hpositional.trans hpositional'.symm)]
    rcases Fields.get?_cons hrest hf with ⟨own, -, hkey, hnone, hget⟩ | ⟨hother, hget⟩
    · by_cases hown : own ∈ Keywords.childNames
      · exact exists_readChild?_iff ht hkey hown hpositional hpositional' hnone hget
      · refine hskip (fun name hname => ?_) fun name hname => ?_
        · rwa [← Option.some.inj (hkey.symm.trans hname)]
        · rw [hget, if_neg (ne_of_mem_of_not_mem hname hown)]
    · exact hskip (fun own hown hmem => hother own hown (List.mem_append_right _ hmem))
        fun name _ => hget name

/-! ## Tables in order -/

mutual

/-- A schema with its tables in order, and so those below it. -/
def ordered : Schema → Schema
  | { keywords, properties, items, additional, negated, allOf, oneOf, anyOf } =>
    { keywords := keywords.ordered
      properties := orderedTable properties
      items := orderedOption items
      additional := orderedAdditional additional
      negated := orderedOption negated
      allOf := orderedList allOf
      oneOf := orderedList oneOf
      anyOf := orderedList anyOf }

/-- A schema with its tables in order, or a reference. -/
def orderedRef : SchemaRef → SchemaRef
  | .ref path => .ref path
  | .inline s => .inline (ordered s)

/-- A table in order. -/
def orderedTable : Table SchemaRef → Table SchemaRef
  | ⟨es⟩ => (Table.mk (orderedEntries es)).sortByKey

/-- The entries of a table, which stay where they are. -/
def orderedEntries : List (String × SchemaRef) → List (String × SchemaRef)
  | [] => []
  | e :: es => orderedEntry e :: orderedEntries es

/-- One entry of a table. -/
def orderedEntry : String × SchemaRef → String × SchemaRef
  | (k, r) => (k, orderedRef r)

/-- A schema that may be missing. -/
def orderedOption : Option SchemaRef → Option SchemaRef
  | none => none
  | some r => some (orderedRef r)

/-- What is said of further properties. -/
def orderedAdditional : Option (Additional SchemaRef) → Option (Additional SchemaRef)
  | none => none
  | some a => some (orderedValues a)

/-- The schema of further properties. -/
def orderedValues : Additional SchemaRef → Additional SchemaRef
  | .allowed b => .allowed b
  | .values r => .values (orderedRef r)

/-- A list of schemas. -/
def orderedList : List SchemaRef → List SchemaRef
  | [] => []
  | r :: rs => orderedRef r :: orderedList rs

end

lemma orderedEntries_eq (es : List (String × SchemaRef)) :
    orderedEntries es = es.map fun e => (e.1, orderedRef e.2) := by
  induction es with
  | nil => rw [orderedEntries, List.map_nil]
  | cons e es ih =>
    obtain ⟨k, r⟩ := e
    rw [orderedEntries, orderedEntry, ih, List.map_cons]

lemma orderedTable_eq (t : Table SchemaRef) : orderedTable t = (t.map orderedRef).sortByKey := by
  obtain ⟨es⟩ := t
  rw [orderedTable, orderedEntries_eq]
  rfl

lemma orderedOption_eq (o : Option SchemaRef) : orderedOption o = o.map orderedRef := by
  cases o <;> rw [orderedOption] <;> rfl

lemma orderedAdditional_eq (o : Option (Additional SchemaRef)) :
    orderedAdditional o = o.map (Additional.map orderedRef) := by
  rcases o with - | ⟨b⟩ | ⟨r⟩ <;> rw [orderedAdditional] <;> try rw [orderedValues]
  all_goals rfl

lemma orderedList_eq (rs : List SchemaRef) : orderedList rs = rs.map orderedRef := by
  induction rs with
  | nil => rw [orderedList, List.map_nil]
  | cons r rs ih => rw [orderedList, ih, List.map_cons]

/-- The children of a schema in order are its children in order. -/
lemma ordered_eq (s : Schema) : s.ordered =
    { s.mapChildren orderedRef with
      keywords := s.keywords.ordered
      properties := (s.properties.map orderedRef).sortByKey } := by
  obtain ⟨keywords, properties, items, additional, negated, allOf, oneOf, anyOf⟩ := s
  rw [ordered, orderedTable_eq, orderedOption_eq, orderedAdditional_eq, orderedOption_eq,
    orderedList_eq, orderedList_eq, orderedList_eq]
  rfl

@[simp] lemma orderedRef_ref (path : String) : orderedRef (.ref path) = .ref path := by
  rw [orderedRef]

@[simp] lemma orderedRef_inline (s : Schema) : orderedRef (.inline s) = .inline s.ordered := by
  rw [orderedRef]

@[simp] lemma orderedRef_orderedRef (r : SchemaRef) :
    orderedRef (orderedRef r) = orderedRef r := by
  induction r using ref_induction with
  | ref path => rw [orderedRef_ref, orderedRef_ref]
  | inline s ih =>
    have hadditional : Additional.map orderedRef ∘ Additional.map orderedRef =
        Additional.map (orderedRef ∘ orderedRef) := by
      funext a
      cases a <;> rfl
    have hchildren : s.mapChildren (orderedRef ∘ orderedRef) = s.mapChildren orderedRef :=
      mapChildren_congr ih
    simp only [mapChildren, mk.injEq, true_and] at hchildren
    rw [orderedRef_inline, orderedRef_inline, ordered_eq s.ordered, ordered_eq s]
    simp only [mapChildren, Option.map_map, List.map_map, ← Table.sortByKey_map, Table.map_map,
      Table.sortByKey_sortByKey, Keywords.ordered_ordered, hadditional, hchildren]

/-- The order of tables does not matter for what is taken for a reference. -/
lemma every_straight_orderedRef {r : SchemaRef} :
    Every (fun s => s.keywords.Straight) (orderedRef r) ↔
      Every (fun s => s.keywords.Straight) r := by
  have hchildren (s : Schema) (r : SchemaRef) :
      r ∈ s.ordered.children ↔ r ∈ (s.mapChildren orderedRef).children := by
    rw [ordered_eq]
    simp only [mem_children, (Table.values_sortByKey_perm _).mem_iff]
    exact .rfl
  induction r using ref_induction with
  | ref path => rw [orderedRef_ref]
  | inline s ih =>
    have hnode : s.ordered.keywords.Straight ↔ s.keywords.Straight := by
      rw [ordered_eq]
      exact Extensions.straight_sortByKey
    rw [orderedRef_inline]
    constructor
    · refine fun h => .inline (hnode.1 h.node) fun q hq => (ih q hq).1 (h.children _ ?_)
      rw [hchildren, children_mapChildren]
      exact List.mem_map_of_mem hq
    · refine fun h => .inline (hnode.2 h.node) fun r hr => ?_
      rw [hchildren, children_mapChildren] at hr
      obtain ⟨q, hq, rfl⟩ := List.mem_map.1 hr
      exact (ih q hq).2 (h.children q hq)

/-! ## Written schemas -/

/-- A schema as readers return it, apart from the schemas below it. -/
structure Tidy (s : Schema) : Prop where
  keywords : Keywords.layout.Sound .tidy s.keywords
  extensions : Extensions.Tidy (Keywords.names ++ Keywords.childNames) s.keywords.extensions
  distinct : s.properties.keys.Nodup

lemma refJson_inline (s : Schema) : refJson (.inline s) = s.toJson := by
  rw [refJson, writeRef_inline, toJson]

lemma refJson_ref (path : String) : refJson (.ref path) = Reference.toJson path := by
  rw [refJson, writeRef_ref]

lemma exists_increasing_refJson (r : SchemaRef) :
    ∃ es, refJson r = .members es ∧ Json.Increasing es := by
  cases r with
  | ref path => exact ⟨_, refJson_ref path, Json.increasing_entered _⟩
  | inline s =>
    rw [refJson_inline]
    exact exists_increasing_write Reference.toJson s

lemma exists_members_refJson (r : SchemaRef) : ∃ es, refJson r = .members es := by
  obtain ⟨es, hes, -⟩ := exists_increasing_refJson r
  exact ⟨es, hes⟩

lemma refJson_ne_null (r : SchemaRef) : refJson r ≠ .null := by
  obtain ⟨es, hes⟩ := exists_members_refJson r
  rw [hes]
  nofun

/-- What is said of further properties is read back if the schema is. -/
lemma readAdditional?_iff {g : SchemaRef → SchemaRef} {a : Additional SchemaRef} :
    readAdditional? (.ofJson (additionalJson Reference.toJson a)) = some (a.map g) ↔
      ∀ r ∈ a.values?, readNode? (.ofJson (refJson r)) = some (g r) := by
  cases a with
  | allowed b => exact iff_of_true rfl fun r hr => (Option.not_mem_none r hr).elim
  | values r =>
    obtain ⟨es, hes⟩ := exists_members_refJson r
    have hread : readAdditional? (.ofJson (refJson r)) =
        (readNode? (.ofJson (refJson r))).map .values := by
      rw [hes, Tree.ofJson, readAdditional?]
      exact nofun
    change readAdditional? (.ofJson (refJson r)) = _ ↔ ∀ q ∈ some r, _
    rw [hread]
    simp [Additional.map]

/-- A schema as it comes back, for what the schemas below it come back as. -/
def comeBack (g : SchemaRef → SchemaRef) (s : Schema) : Schema :=
  { s.mapChildren g with
    keywords := s.keywords.ordered
    properties := (s.properties.map g).sortByKey }

lemma ordered_eq_comeBack (s : Schema) : s.ordered = s.comeBack orderedRef := ordered_eq s

/-- What the schemas of a written record come back as is what each of them does. -/
lemma readsChildren_comeBack_iff {g : SchemaRef → SchemaRef} {f : Fields} {s : Schema}
    (hf : f.positional = false) (hs : s.properties.keys.Nodup)
    (hget : ∀ name ∈ Keywords.childNames,
      f.get? name = (Json.lookup name (s.childMembers Reference.toJson)).map Tree.ofJson) :
    ReadsChildren f (s.comeBack g) ↔
      ∀ r ∈ s.children, readNode? (.ofJson (refJson r)) = some (g r) := by
  have hrefJson : writeRef Reference.toJson = refJson := rfl
  have hlookup := lookup_childMembers Reference.toJson s
  rw [hrefJson] at hlookup
  obtain ⟨hproperties, hitems, hadditional, hnot, hallOf, honeOf, hanyOf⟩ := hlookup
  have hanswer {name : String} {value : Option Json}
      (h : Json.lookup name (s.childMembers Reference.toJson) = value)
      (hname : name ∈ Keywords.childNames) : f.get? name = value.map Tree.ofJson :=
    h ▸ hget name hname
  have hnull (a : Additional SchemaRef) : additionalJson Reference.toJson a ≠ .null := by
    cases a with
    | allowed b => nofun
    | values r => exact refJson_ne_null r
  rw [ReadsChildren, comeBack]
  simp only [mapChildren]
  rw [Fields.defaulted?_table_iff hs (hanswer hproperties (by decide)),
    Fields.optional?_iff hf (hanswer hitems (by decide)) fun r _ => refJson_ne_null r,
    Fields.optional?_iff hf (hanswer hadditional (by decide)) fun a _ => hnull a,
    Fields.optional?_iff hf (hanswer hnot (by decide)) fun r _ => refJson_ne_null r,
    Fields.defaulted?_list_iff (hanswer hallOf (by decide)),
    Fields.defaulted?_list_iff (hanswer honeOf (by decide)),
    Fields.defaulted?_list_iff (hanswer hanyOf (by decide))]
  have hvalues {P : SchemaRef → Prop} :
      (∀ a, s.additional = some a → ∀ r, a.values? = some r → P r) ↔
        ∀ r, s.additional = some (.values r) → P r := by
    rcases s.additional with - | ⟨b⟩ | ⟨r⟩ <;> simp [Additional.values?]
  simp only [readAdditional?_iff, mem_children, or_imp, forall_and, Option.mem_def, hvalues]

section Known

variable {s : Schema} {name : String}

lemma lookup_knownMembers_of_keyword (h : name ∈ Keywords.names) :
    Json.lookup name (s.knownMembers Reference.toJson) =
      Json.lookup name (Keywords.layout.members s.keywords) := by
  have hdisjoint : ∀ name ∈ Keywords.names,
      name ∉ ["properties", "items", "additionalProperties", "not", "allOf", "oneOf", "anyOf"] := by
    decide
  have hnone : Json.lookup name (s.childMembers Reference.toJson) = none :=
    Json.lookup_eq_none_iff.2 fun hmem =>
      hdisjoint name h ((keys_childMembers Reference.toJson s).subset hmem)
  rw [knownMembers, Json.lookup_append, hnone, Option.none_or, Keywords.members_known]

lemma lookup_knownMembers_of_child (h : name ∈ Keywords.childNames) :
    Json.lookup name (s.knownMembers Reference.toJson) =
      Json.lookup name (s.childMembers Reference.toJson) := by
  rw [knownMembers, Json.lookup_append, s.keywords.lookup_known_of_child h, Option.or_none]

end Known

lemma tidy_childMembers {s : Schema} (h : ∀ r ∈ s.children, (refJson r).Tidy) :
    ∀ e ∈ s.childMembers Reference.toJson, e.2.Tidy := by
  simp only [mem_children, or_imp, forall_and] at h
  obtain ⟨hproperties, hitems, hadditional, hnot, hallOf, honeOf, hanyOf⟩ := h
  simp only [childMembers, List.forall_mem_append]
  refine ⟨⟨⟨⟨⟨⟨Json.tidy_tableMember hproperties, Json.tidy_member? hitems⟩, ?_⟩,
    Json.tidy_member? hnot⟩, Json.tidy_listMember hallOf⟩, Json.tidy_listMember honeOf⟩,
    Json.tidy_listMember hanyOf⟩
  refine Json.tidy_member? fun a ha => ?_
  cases a with
  | allowed b => exact .bool b
  | values r => exact hadditional r ha

/-- What is written of a tidy schema is tidy. -/
theorem tidy_refJson {r : SchemaRef} (h : Every Tidy r) : (refJson r).Tidy := by
  induction h with
  | ref path =>
    rw [refJson, writeRef_ref]
    exact Json.tidy_object (List.forall_mem_singleton.2 (.string path))
  | @inline s hs _ ih =>
    rw [refJson, writeRef_inline, write_eq_object]
    refine Json.tidy_object (List.forall_mem_append.2 ⟨?_, hs.extensions.tidy⟩)
    rw [knownMembers, Keywords.members_known]
    exact List.forall_mem_append.2
      ⟨tidy_childMembers ih, Keywords.layout.tidy_members hs.keywords⟩

/-- What is written of a tidy schema is read as the reference under a textual `$ref`, if there is
one among its unknown keywords, and else as the schema with what comes back below it. -/
lemma readNode?_toJson {s : Schema} (hs : Every Tidy (.inline s)) :
    ((∃ path, s.toJson.path? = some path ∧
        readNode? (.ofJson s.toJson) = some (.ref path)) ∧ ¬s.keywords.Straight) ∨
      (s.toJson.path? = none ∧ s.keywords.Straight ∧ ∀ g,
        readNode? (.ofJson s.toJson) = some (.inline (s.comeBack g)) ↔
          ∀ r ∈ s.children, readNode? (.ofJson (refJson r)) = some (g r)) := by
  have hnodup := nodup_knownMembers Reference.toJson s
  have hknown : ∀ e ∈ s.knownMembers Reference.toJson,
      e.1 ∈ Keywords.names ++ Keywords.childNames :=
    fun e he => knownMembers_subset Reference.toJson (List.mem_map_of_mem he)
  obtain ⟨f, hf, hpositional, hget, hextensions⟩ :=
    Fields.exists_written hnodup hknown hs.node.extensions
  have hpath := Fields.path?_object_iff hnodup hknown hs.node.extensions (by decide)
  have htidy := tidy_refJson hs
  rw [refJson, writeRef_inline, write_eq_object, Json.object_eq] at htidy
  rw [toJson, write_eq_object, Json.object_eq, Tree.ofJson]
  generalize Json.entered (s.knownMembers Reference.toJson ++ s.keywords.extensions.entries) =
    es at hf hpath htidy ⊢
  rw [← Reference.path?_ofMembers]
  have hsound : ∀ e ∈ Tree.ofMembers es, e.2.Sound .tidy := by
    cases Tree.sound_ofJson (k := .tidy) htidy with
    | record _ hparts _ => exact hparts
  have hkeywords : Keywords.read? (Tree.ofMembers es) = some s.keywords.ordered := by
    refine Keywords.read?_iff.2 ⟨f, hf, ?_, hextensions⟩
    refine (Keywords.layout.reads_iff hpositional (fun name hname => ?_) hs.node.keywords).2
      s.keywords.sound_straight
    rw [hget name (List.mem_append_left _ hname), lookup_knownMembers_of_keyword hname]
  cases hp : Reference.path? (Tree.ofMembers es) with
  | some path =>
    refine .inl ⟨⟨path, rfl, by rw [readNode?, hp]⟩, fun hstraight => ?_⟩
    cases hp.symm.trans (hpath.2 hstraight)
  | none =>
    refine .inr ⟨rfl, hpath.1 hp, fun g => ?_⟩
    have hchildren : ReadsChildren f (s.comeBack g) ↔ ∀ r ∈ s.children,
        readNode? (.ofJson (refJson r)) = some (g r) := by
      refine readsChildren_comeBack_iff hpositional hs.node.distinct fun name hname => ?_
      rw [hget name (List.mem_append_right _ hname), lookup_knownMembers_of_child hname]
    rw [← hchildren, readNode?]
    simp only [hp, hkeywords, Option.bind_eq_bind, Option.bind_some,
      Option.bind_eq_some_iff, readChildren?_iff hsound hf]
    constructor
    · rintro ⟨t, ⟨-, ht⟩, heq⟩
      rw [← Referable.inline.inj (Option.some.inj heq)]
      exact ht
    · exact fun h => ⟨{ s.comeBack g with keywords := {} }, ⟨rfl, h⟩, rfl⟩

/-- **A tidy schema comes back exactly if it is straight**, and so are all schemas below it.

**Proof sketch.** By induction over the schemas below it. A written schema has the fields of the
schema; if none of its unknown keywords is a textual `$ref` it is no reference, and each of its
fields comes back by the law of its kind. -/
theorem readNode?_refJson_iff {r : SchemaRef} (h : Every Tidy r) :
    readNode? (.ofJson (refJson r)) = some (orderedRef r) ↔
      Every (fun s => s.keywords.Straight) r := by
  induction h with
  | ref path =>
    refine iff_of_true ?_ (.ref path)
    rw [refJson, writeRef_ref]
    rfl
  | @inline s hs hbelow ih =>
    rw [refJson_inline, orderedRef_inline]
    rcases readNode?_toJson (.inline hs hbelow) with
      ⟨⟨path, -, hread⟩, hstray⟩ | ⟨-, hstraight, hread⟩
    · rw [hread]
      refine iff_of_false (fun h => ?_) fun h => hstray h.node
      cases h
    · rw [ordered_eq_comeBack, hread]
      exact ⟨fun h => .inline hstraight fun r hr => (ih r hr).1 (h r hr),
        fun h r hr => (ih r hr).2 (h.children r hr)⟩

/-! ## Read schemas -/

/-- A schema that is sound, apart from the schemas below it. -/
def SoundNode : Soundness → Schema → Prop
  | .tidy, s => s.Tidy
  | .straight, s => s.keywords.Straight

/-- The schemas of a sound record were read from sound trees. -/
lemma exists_of_readsChildren {k : Soundness} {f : Fields} {s : Schema}
    (hf : ∀ name t, f.get? name = some t → t.Sound k) (h : ReadsChildren f s) {r : SchemaRef}
    (hr : r ∈ s.children) : ∃ t : Tree, t.Sound k ∧ readNode? t = some r := by
  have hoptional {name : String} {o : Option SchemaRef}
      (h : f.optional? name readNode? = some o) (hr : o = some r) :
      ∃ t : Tree, t.Sound k ∧ readNode? t = some r := by
    obtain ⟨t, hget, hread, -⟩ := Fields.exists_of_optional? h hr
    exact ⟨t, hf name t hget, hread⟩
  have hlist {name : String} {rs : List SchemaRef}
      (h : f.defaulted? name (Tree.listOf? readNode?) [] = some rs) (hr : r ∈ rs) :
      ∃ t : Tree, t.Sound k ∧ readNode? t = some r := by
    rcases Fields.exists_of_defaulted? h with rfl | ⟨t, hget, hread⟩
    · cases hr
    · exact Tree.exists_of_listOf? (hf name t hget) hread hr
  obtain ⟨hproperties, hitems, hadditional, hnot, hallOf, honeOf, hanyOf⟩ := h
  rcases mem_children.1 hr with hr | hr | hr | hr | hr | hr | hr
  · rcases Fields.exists_of_defaulted? hproperties with heq | ⟨t, hget, hread⟩
    · rw [heq] at hr
      cases hr
    · exact Tree.exists_of_table? (hf _ t hget) hread hr
  · exact hoptional hitems hr
  · obtain ⟨t, hget, hread, -⟩ := Fields.exists_of_optional? hadditional hr
    refine ⟨t, hf _ t hget, ?_⟩
    rw [readAdditional?.eq_def] at hread
    split at hread
    · cases hread
    · obtain ⟨q, hq, heq⟩ := Option.map_eq_some_iff.1 hread
      exact Additional.values.inj heq ▸ hq
  · exact hoptional hnot hr
  · exact hlist hallOf hr
  · exact hlist honeOf hr
  · exact hlist hanyOf hr

/-- **What is read from a sound tree is sound**, and so are all schemas below it. -/
theorem every_of_readNode? {k : Soundness} {r : SchemaRef} :
    ∀ {t : Tree}, t.Sound k → readNode? t = some r → Every (SoundNode k) r := by
  induction r using ref_induction with
  | ref path => exact fun _ _ => .ref path
  | inline s ih =>
    intro t ht h
    cases t with
    | record es =>
      rw [readNode?] at h
      split at h
      · cases h
      · rename_i hpath
        simp only [Option.bind_eq_bind, Option.bind_eq_some_iff] at h
        obtain ⟨keywords, hkeywords, children, hchildren, h⟩ := h
        obtain rfl := Referable.inline.inj (Option.some.inj h)
        obtain ⟨f, hf, hreads, hextensions⟩ := Keywords.read?_iff.1 hkeywords
        have hfields (name : String) (u : Tree) (hu : f.get? name = some u) : u.Sound k :=
          Fields.sound_of_ofEntries? ht hf hu
        have hparts : ∀ e ∈ es, e.2.Sound k := by
          cases ht with
          | record _ hparts _ => exact hparts
        have hdistinct := nodup_keys_of_readChildren? hchildren
        refine .inline ?_ fun r hr => ?_
        · cases k with
          | tidy => exact ⟨Keywords.layout.sound_of_reads hfields hreads,
              Fields.tidy_extensions hf hextensions, hdistinct⟩
          | straight =>
            intro path hmem
            rw [Fields.path?_of_stray ht hf hextensions hmem] at hpath
            cases hpath
        · obtain ⟨u, hu, hread⟩ := exists_of_readsChildren hfields
            ((readChildren?_iff hparts hf).1 hchildren).2 hr
          exact ih r hr hu hread
    | _ => simp [readNode?] at h

end Schema

/-- Schemas and references to them. -/
@[simps! -fullyApplied read write inOrder]
def Codec.schema : Codec SchemaRef where
  read := Schema.readRef?
  write := Schema.refJson
  inOrder := Schema.orderedRef
  Sound k := Schema.Every (Schema.SoundNode k)
  reads_iff h := by
    rw [Schema.readRef?, Tree.settle?_ofJson, Option.bind_some]
    exact Schema.readNode?_refJson_iff h
  sound_of_read ht h := by
    obtain ⟨u, hu, h⟩ := Option.bind_eq_some_iff.1 h
    exact Schema.every_of_readNode? (ht.settle? hu) h
  inOrder_inOrder := Schema.orderedRef_orderedRef
  straight_inOrder := Schema.every_straight_orderedRef
  tidy_write := Schema.tidy_refJson
  isNull_of_write _ _ h := absurd h (Schema.refJson_ne_null _)

@[simp] lemma Codec.sound_schema {k : Soundness} {r : SchemaRef} :
    schema.Sound k r ↔ Schema.Every (Schema.SoundNode k) r := .rfl

end ApiLowering
