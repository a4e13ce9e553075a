import ApiLowering.Proofs.Canonical.Steps
import ApiLowering.Proofs.Codec.Merging
import ApiLowering.Proofs.Document.Samples

/-!
# Which declaration of a property counts

Several inline parts of a composition become one, and a property that some of them declare is merged
from its declarations. The last declaration wins as far as it says something: if it is a reference,
the property is that reference; else its scalar keywords stay, next to the keywords that only
earlier declarations have.

There is an exception. Schemas are merged as values, and a reference is the value with the single
key `$ref`. Where the last declaration is a schema and an earlier one is a reference, that key stays,
and the whole is read as the earlier reference: of the last declaration nothing is left.

## Main definitions

* `Schema.propertyAt?`, `Schema.declarations` — the property under a path of names, and all that
  some schemas declare there.
* `Schema.lastTarget?` — the path of the last `$ref` that some schemas are written with.
* `Schema.Blend` — a schema is written as some schemas are merged.
* `Schema.LastWins` — how a property is merged from its declarations.

## Main results

* `Schema.lastWins_mergeParts` — parts are always merged, and the last declaration of each property
  wins unless an earlier reference stays.
-/

namespace ApiLowering

namespace Schema

/-! ## Properties under paths -/

/-- The property of a schema under a name. -/
def property? (name : String) : SchemaRef → Option SchemaRef
  | .ref _ => none
  | .inline s => s.properties.find? name

/-- The property under a path of names. The empty path leads to the schema itself, and no path goes
on below a reference. -/
def propertyAt? : List String → SchemaRef → Option SchemaRef
  | [], r => some r
  | name :: names, r => (property? name r).bind (propertyAt? names)

/-- What some schemas declare under a path of names, first to last. -/
def declarations (names : List String) (rs : List SchemaRef) : List SchemaRef :=
  rs.filterMap (propertyAt? names)

/-- The path of the last `$ref` that some schemas are written with, if that is a text. A reference
is written with its path, and a schema with any `$ref` among its unknown keywords. -/
def lastTarget? (rs : List SchemaRef) : Option String :=
  (rs.filterMap fun r => (refJson r).get? "$ref").getLast?.bind Json.string?

lemma declarations_nil (rs : List SchemaRef) : declarations [] rs = rs := by
  rw [declarations]
  exact List.filterMap_some

lemma declarations_cons (name : String) (names : List String) (rs : List SchemaRef) :
    declarations (name :: names) rs = declarations names (rs.filterMap (property? name)) := by
  rw [declarations, declarations, List.filterMap_filterMap]
  rfl

end Schema

/-! ## Answers of written schemas -/

/-- The value of a property. -/
def Json.propertyValue? (name : String) (v : Json) : Option Json :=
  (v.get? "properties").bind (·.get? name)

namespace Schema

section Answers

variable {r q : SchemaRef}

lemma get?_merge_refJson (key : String) : ((refJson r).merge (refJson q)).get? key =
    Json.mergeOption ((refJson r).get? key) ((refJson q).get? key) := by
  obtain ⟨es, hes, -⟩ := exists_increasing_refJson r
  obtain ⟨fs, hfs, hincreasing⟩ := exists_increasing_refJson q
  rw [hes, hfs, Json.merge_members, Json.get?_mergeMembers hincreasing.nodup]

/-- The properties of a schema are written as a table. -/
lemma get?_properties_refJson (hr : Every Tidy r) : ∃ t : Table SchemaRef, t.keys.Nodup ∧
    (∀ name, property? name r = t.find? name) ∧
      (refJson r).get? "properties" = if t.isEmpty then none else some (Json.ofTable t refJson) := by
  cases r with
  | ref path =>
    refine ⟨{}, List.nodup_nil, fun _ => rfl, ?_⟩
    rw [refJson_ref]
    rfl
  | inline s =>
    refine ⟨s.properties, hr.node.distinct, fun _ => rfl, ?_⟩
    rw [refJson_inline, toJson, get?_write_properties _ hr.node.extensions.fresh]
    rfl

/-- A written schema answers with its properties. -/
lemma propertyValue?_refJson (hr : Every Tidy r) (name : String) :
    (refJson r).propertyValue? name = (property? name r).map refJson := by
  obtain ⟨t, ht, hproperty, hget⟩ := get?_properties_refJson hr
  rw [Json.propertyValue?, hget, hproperty]
  cases hempty : t.isEmpty with
  | true =>
    have hnone : t.find? name = none := by rw [Table.find?, List.isEmpty_iff.1 hempty]; rfl
    rw [hnone]
    rfl
  | false => exact Json.get?_ofTable refJson ht name

/-- Properties are merged one by one. -/
lemma propertyValue?_merge_refJson (hr : Every Tidy r) (hq : Every Tidy q) (name : String) :
    ((refJson r).merge (refJson q)).propertyValue? name =
      Json.mergeOption ((refJson r).propertyValue? name) ((refJson q).propertyValue? name) := by
  obtain ⟨t, ht, -, hget⟩ := get?_properties_refJson hr
  obtain ⟨u, hu, -, hget'⟩ := get?_properties_refJson hq
  rw [Json.propertyValue?, Json.propertyValue?, Json.propertyValue?, get?_merge_refJson]
  cases ht' : t.isEmpty with
  | true => rw [hget, ht', if_pos rfl, Json.mergeOption_none_left, Option.bind_none,
      Json.mergeOption_none_left]
  | false =>
    cases hu' : u.isEmpty with
    | true => rw [hget', hu', if_pos rfl, Json.mergeOption_none_right, Option.bind_none,
        Json.mergeOption_none_right]
    | false =>
      obtain ⟨es, hes, -⟩ := Table.exists_members refJson ht
      obtain ⟨fs, hfs, hincreasing, -⟩ := Table.exists_members refJson hu
      rw [hget, hget', ht', hu', if_neg Bool.false_ne_true, if_neg Bool.false_ne_true, hes, hfs,
        Json.mergeOption, Json.merge_members]
      exact Json.get?_mergeMembers hincreasing.nodup

end Answers

/-! ## Merged schemas -/

/-- A schema or a reference is written as some others are merged, first to last. -/
structure Blend (ds : List SchemaRef) (r : SchemaRef) : Prop where
  declared : ∀ d ∈ ds, Every Tidy d
  tidy : Every Tidy r
  written : Json.mergeAnswers (ds.map fun d => some (refJson d)) = some (refJson r)

/-- Some schemas always have a merged schema. -/
lemma exists_blend {ds : List SchemaRef} (h : ∀ d ∈ ds, Every Tidy d) (hne : ds ≠ []) :
    ∃ r, Blend ds r := by
  induction ds using List.reverseRecOn with
  | nil => exact absurd rfl hne
  | append_singleton ds d ih =>
    have hd := h d (by simp)
    have hds : ∀ e ∈ ds, Every Tidy e := fun e he => h e (by simp [he])
    by_cases hempty : ds = []
    · subst hempty
      exact ⟨d, h, hd, rfl⟩
    · obtain ⟨r, hr⟩ := ih hds hempty
      obtain ⟨m, hm, hmw⟩ := exists_merge hr.tidy hd
      refine ⟨m, h, hm, ?_⟩
      rw [List.map_append, List.map_singleton, Json.mergeAnswers_concat, hr.written, hmw]
      rfl

/-- A merged schema answers with the merge of the answers, for whatever is merged with schemas. -/
lemma Blend.answer (answer : Json → Option Json)
    (hanswer : ∀ {r q}, Every Tidy r → Every Tidy q → answer ((refJson r).merge (refJson q)) =
      Json.mergeOption (answer (refJson r)) (answer (refJson q)))
    {ds : List SchemaRef} {r : SchemaRef} (h : Blend ds r) :
    answer (refJson r) = Json.mergeAnswers (ds.map fun d => answer (refJson d)) := by
  obtain ⟨hds, -, hwritten⟩ := h
  induction ds using List.reverseRecOn generalizing r with
  | nil => cases hwritten
  | append_singleton ds d ih =>
    have hd := hds d (by simp)
    have hds : ∀ e ∈ ds, Every Tidy e := fun e he => hds e (by simp [he])
    rw [List.map_append, List.map_singleton, Json.mergeAnswers_concat] at hwritten ⊢
    by_cases hempty : ds = []
    · subst hempty
      rw [List.map_nil, Json.mergeAnswers_nil, Json.mergeOption_none_left] at hwritten ⊢
      rw [Option.some.inj hwritten]
    · obtain ⟨q, hq⟩ := exists_blend hds hempty
      rw [hq.written, Json.mergeOption, Option.some.injEq] at hwritten
      rw [← hwritten, hanswer hq.tidy hd, ih hds hq.written]

section Blend

variable {ds : List SchemaRef} {r : SchemaRef} (h : Blend ds r)

include h

lemma Blend.get? (key : String) :
    (refJson r).get? key = Json.mergeAnswers (ds.map fun d => (refJson d).get? key) :=
  h.answer (·.get? key) fun _ _ => get?_merge_refJson key

/-- What is merged is read as a reference exactly if the last `$ref` is textual. -/
lemma Blend.path? : (refJson r).path? = lastTarget? ds := by
  obtain ⟨es, hes, hincreasing⟩ := exists_increasing_refJson r
  have hget := h.get? "$ref"
  rw [hes] at hget ⊢
  rw [Json.path?_of_nodup hincreasing.nodup, lastTarget?, ← Json.mergeAnswers_bind_string?,
    ← Json.mergeAnswers_map, ← hget]
  rfl

lemma Blend.ne_nil : ds ≠ [] := by
  rintro rfl
  cases h.written

/-- A property of a merged schema is merged from its declarations. -/
lemma Blend.property? (name : String) :
    (ds.filterMap (Schema.property? name) = [] ∧ Schema.property? name r = none) ∨
      ∃ q, Schema.property? name r = some q ∧ Blend (ds.filterMap (Schema.property? name)) q := by
  have hanswer := h.answer (Json.propertyValue? name) fun hr hq =>
    propertyValue?_merge_refJson hr hq name
  rw [propertyValue?_refJson h.tidy] at hanswer
  have hdeclared : (ds.map fun d => (refJson d).propertyValue? name) =
      ds.map fun d => (Schema.property? name d).map refJson :=
    List.map_congr_left fun d hd => propertyValue?_refJson (h.declared d hd) name
  have hmerged : Json.mergeAnswers (ds.map fun d => (Schema.property? name d).map refJson) =
      Json.mergeAnswers ((ds.filterMap (Schema.property? name)).map fun d => some (refJson d)) := by
    rw [Json.mergeAnswers_map, ← List.map_filterMap, List.map_map]
    rfl
  rw [hdeclared, hmerged] at hanswer
  have htidy {d q : SchemaRef} (hd : Every Tidy d) (hq : Schema.property? name d = some q) :
      Every Tidy q := by
    cases d with
    | ref path => cases hq
    | inline s => exact hd.children q (mem_children.2 (.inl (Table.mem_values_of_find? hq)))
  cases hq : Schema.property? name r with
  | none =>
    refine .inl ⟨?_, rfl⟩
    rw [hq, Option.map_none] at hanswer
    by_contra hne
    have hsome : (Json.mergeAnswers ((ds.filterMap (Schema.property? name)).map
        fun d => some (refJson d))).isSome := by
      obtain ⟨d, hd⟩ := List.exists_mem_of_ne_nil _ hne
      exact Json.isSome_mergeAnswers.2 ⟨_, List.mem_map_of_mem hd, rfl⟩
    rw [← hanswer] at hsome
    cases hsome
  | some q =>
    rw [hq, Option.map_some] at hanswer
    refine .inr ⟨q, rfl, fun d hd => ?_, htidy h.tidy hq, hanswer.symm⟩
    obtain ⟨e, he, hed⟩ := List.mem_filterMap.1 hd
    exact htidy (h.declared e he) hed

end Blend

/-! ## Declarations and merged properties -/

/-- How a property is merged from its declarations, first to last. -/
structure LastWins (ds : List SchemaRef) (merged : Option SchemaRef) : Prop where
  /-- There is a property exactly if there is a declaration. -/
  isSome_iff : merged.isSome ↔ ds ≠ []
  /-- If the last declaration is a reference, then so is the property. -/
  reference {path : String} : ds.getLast? = some (.ref path) → merged = some (.ref path)
  /-- If the last declaration is a schema, then so is the property, unless there is a textual `$ref`
  from before. -/
  inline {last : Schema} : ds.getLast? = some (.inline last) →
    ((∃ s, merged = some (.inline s)) ↔ lastTarget? ds = none)
  /-- In particular it is a schema if all declarations are. -/
  schemas : ds ≠ [] → (∀ d ∈ ds, ∃ s : Schema, d = .inline s ∧ s.keywords.Straight) →
    ∃ s, merged = some (.inline s)
  /-- A textual `$ref` from before makes the property a reference. -/
  target {path : String} : lastTarget? ds = some path → merged = some (.ref path)
  /-- Each scalar of the last declaration is one of the property. -/
  scalar {last s : Schema} {key : String} {v : Json} : ds.getLast? = some (.inline last) →
    merged = some (.inline s) → last.toJson.get? key = some v → v.isScalar = true →
      s.toJson.get? key = some v
  /-- The keywords without schemas are merged one by one. -/
  keyword {s : Schema} {key : String} : merged = some (.inline s) → key ∉ Keywords.childNames →
    s.toJson.get? key = Json.mergeAnswers (ds.map fun d => (refJson d).get? key)
  /-- No keyword is lost. -/
  kept {s : Schema} {key : String} : merged = some (.inline s) →
    ((s.toJson.get? key).isSome ↔ ∃ d ∈ ds, ((refJson d).get? key).isSome)
  /-- A keyword that a single declaration has is as it is there, if there is no stray `$ref`. -/
  sole {s d : Schema} {key : String} {before after : List SchemaRef} :
    merged = some (.inline s) → ds = before ++ .inline d :: after →
      (∀ e ∈ before ++ after, (refJson e).get? key = none) →
        Every (fun t => t.keywords.Straight) (.inline d) → s.toJson.get? key = d.toJson.get? key

lemma lastWins_nil : LastWins [] none where
  isSome_iff := by simp
  reference h := by cases h
  inline h := by cases h
  schemas h := absurd rfl h
  target h := by cases h
  scalar h := by cases h
  keyword h := by cases h
  kept h := by cases h
  sole h := by cases h

/-- The path of a last reference is that of the last `$ref`. -/
lemma lastTarget?_of_getLast? {ds : List SchemaRef} {path : String}
    (h : ds.getLast? = some (.ref path)) : lastTarget? ds = some path := by
  obtain ⟨before, rfl⟩ := List.getLast?_eq_some_iff.1 h
  have hanswer : (refJson (.ref path)).get? "$ref" = some (.string path) := by
    rw [refJson_ref]
    rfl
  rw [lastTarget?, List.filterMap_append]
  simp [hanswer, Json.string?]

/-- Schemas without a stray `$ref` leave none. -/
lemma lastTarget?_eq_none {ds : List SchemaRef} (htidy : ∀ d ∈ ds, Every Tidy d)
    (h : ∀ d ∈ ds, ∃ s : Schema, d = .inline s ∧ s.keywords.Straight) : lastTarget? ds = none := by
  refine Option.bind_eq_none_iff.2 fun v hv => ?_
  obtain ⟨d, hd, hdv⟩ := List.mem_filterMap.1 (List.mem_of_getLast? hv)
  obtain ⟨s, rfl, hs⟩ := h d hd
  have hs' := (htidy _ hd).node.extensions
  rw [refJson_inline, get?_toJson_of_unknown hs'.distinct (by decide +kernel)] at hdv
  have hnone := (Extensions.straight_iff hs'.distinct).1 hs
  rwa [hdv] at hnone

section Blend

variable {ds : List SchemaRef} {r : SchemaRef} (h : Blend ds r)

include h

/-- A merged schema that is read as a schema keeps its keywords, and what is below it is read, too.
-/
lemma Blend.exists_comeBack {s : Schema} (hs : readBack r = .inline s) :
    ∃ t : Schema, Every Tidy (.inline t) ∧ s = t.comeBack readBack ∧ ∀ key,
      t.toJson.get? key = Json.mergeAnswers (ds.map fun d => (refJson d).get? key) := by
  cases hpath : (refJson r).path? with
  | some path =>
    rw [readBack_of_path? h.tidy hpath] at hs
    cases hs
  | none =>
    obtain ⟨t, rfl, hback⟩ := readBack_of_path?_eq_none h.tidy hpath
    refine ⟨t, h.tidy, Referable.inline.inj (hs.symm.trans hback), fun key => ?_⟩
    rw [← h.get? key, refJson_inline]

/-- **What is merged, and read, from the declarations of a property.** -/
theorem Blend.lastWins : LastWins ds (some (readBack r)) where
  isSome_iff := iff_of_true rfl h.ne_nil
  reference hlast := by
    have hpath := h.path?.trans (lastTarget?_of_getLast? hlast)
    rw [readBack_of_path? h.tidy hpath]
  inline _ := by
    constructor
    · rintro ⟨s, hs⟩
      cases hpath : lastTarget? ds with
      | none => rfl
      | some path =>
        rw [readBack_of_path? h.tidy (h.path?.trans hpath)] at hs
        cases hs
    · intro hnone
      obtain ⟨t, -, hback⟩ := readBack_of_path?_eq_none h.tidy (h.path?.trans hnone)
      exact ⟨_, congrArg some hback⟩
  schemas _ hds := by
    have hpath := h.path?.trans (lastTarget?_eq_none h.declared hds)
    obtain ⟨t, -, hback⟩ := readBack_of_path?_eq_none h.tidy hpath
    exact ⟨_, congrArg some hback⟩
  target hpath := by rw [readBack_of_path? h.tidy (h.path?.trans hpath)]
  scalar {last s key v} hlast hs hv hscalar := by
    obtain ⟨t, ht, rfl, hanswer⟩ := h.exists_comeBack (Option.some.inj hs)
    obtain ⟨before, rfl⟩ := List.getLast?_eq_some_iff.1 hlast
    have htv : t.toJson.get? key = some v := by
      rw [hanswer, List.map_append, List.map_singleton, refJson_inline, hv]
      exact Json.mergeAnswers_concat_of_isScalar _ hscalar
    by_cases hkey : key ∈ Keywords.childNames
    · refine (get?_comeBack_of_childrenAt ht.node fun q hq => ?_).trans htv
      -- nothing is written under the keyword that may be a schema
      have hmem := (mem_schemasUnder ht.node.distinct hkey).2 ⟨q, hq, rfl⟩
      rw [← get?_toJson_of_child ht.node.extensions.fresh hkey, htv,
        Json.schemasUnder_of_isScalar key hscalar] at hmem
      cases hmem
    · exact (get?_comeBack ht.node hkey).trans htv
  keyword {s key} hs hkey := by
    obtain ⟨t, ht, rfl, hanswer⟩ := h.exists_comeBack (Option.some.inj hs)
    rw [get?_comeBack ht.node hkey, hanswer]
  kept {s key} hs := by
    obtain ⟨t, ht, rfl, hanswer⟩ := h.exists_comeBack (Option.some.inj hs)
    rw [isSome_get?_comeBack ht.node, hanswer, Json.isSome_mergeAnswers]
    simp
  sole {s d key before after} hs hds hnone hstraight := by
    obtain ⟨t, ht, rfl, hanswer⟩ := h.exists_comeBack (Option.some.inj hs)
    have hd : Every Tidy (.inline d) := h.declared _ (hds ▸ by simp)
    have heq : t.toJson.get? key = d.toJson.get? key := by
      rw [hanswer, hds, Json.mergeAnswers_of_sole hnone, refJson_inline]
    exact (get?_comeBack_of_eq ht hd hstraight heq).trans heq

end Blend

/-- The same for a property under a path of names, as long as no `$ref` is left above it.

**Proof sketch.** By induction on the path: where no `$ref` is left, the schemas below are merged
from the declarations below, each under its name. -/
theorem Blend.lastWins_propertyAt? {names : List String} :
    ∀ {ds : List SchemaRef} {r : SchemaRef}, Blend ds r →
      (∀ above, above <+: names → above ≠ names → lastTarget? (declarations above ds) = none) →
        LastWins (declarations names ds) (propertyAt? names (readBack r)) := by
  induction names with
  | nil =>
    intro ds r h _
    rw [declarations_nil]
    exact h.lastWins
  | cons name names ih =>
    intro ds r h habove
    have htop := habove [] (List.nil_prefix) (List.cons_ne_nil _ _).symm
    rw [declarations_nil] at htop
    obtain ⟨s, rfl, hback⟩ := readBack_of_path?_eq_none h.tidy (h.path?.trans htop)
    have hproperty : Schema.property? name (readBack (.inline s)) =
        (Schema.property? name (.inline s)).map readBack := by
      rw [hback]
      exact (Table.find?_sortByKey _ name).trans (Table.find?_map readBack s.properties name)
    rw [declarations_cons, propertyAt?, hproperty]
    rcases h.property? name with ⟨hdeclared, hnone⟩ | ⟨q, hq, hblend⟩
    · rw [hdeclared, hnone]
      exact lastWins_nil
    · rw [hq]
      refine ih hblend fun above hprefix hne => ?_
      rw [← declarations_cons]
      refine habove (name :: above) ?_ fun heq => hne (List.cons.inj heq).2
      exact List.cons_prefix_cons.2 ⟨rfl, hprefix⟩

/-! ## Parts -/

lemma foldl_merge (ss : List Schema) (v : Json) :
    some (ss.foldl (fun acc s => acc.merge s.toJson) v) =
      (ss.map fun s => some s.toJson).foldl Json.mergeOption (some v) := by
  induction ss generalizing v with
  | nil => rfl
  | cons s ss ih => exact ih (v.merge s.toJson)

/-- Several tidy schemas are always merged. -/
lemma exists_mergeAll {ss : List Schema} (h : ∀ s ∈ ss, Every Tidy (.inline s)) (hne : ss ≠ []) :
    ∃ r, Blend (ss.map .inline) r ∧ mergeAll ss = some (readBack r) := by
  obtain ⟨r, hr⟩ := exists_blend (List.forall_mem_map.2 h) (mt List.map_eq_nil_iff.1 hne)
  refine ⟨r, hr, ?_⟩
  obtain ⟨a, rest, rfl⟩ := List.exists_cons_of_ne_nil hne
  obtain ⟨es, hes, hincreasing⟩ := exists_increasing_write Reference.toJson a
  have hwritten := hr.written
  simp only [List.map_map, Function.comp_def, refJson_inline] at hwritten
  have hmerged : (a :: rest).foldl (fun acc s => acc.merge s.toJson) (.members []) = refJson r := by
    rw [List.foldl_cons, toJson, hes, Json.merge_empty hincreasing, ← hes, ← toJson]
    exact Option.some.inj ((foldl_merge rest a.toJson).trans hwritten)
  rw [mergeAll, readRef?, hmerged, Tree.settle?_ofJson, Option.bind_some, readNode?_refJson hr.tidy]

/-- **The last part wins**: several inline parts become one, and under every path of names the last
declaration wins, as long as no `$ref` is left above it. In particular the property is that of the
last declaration if that is a reference, and a schema with its scalar keywords if that is a schema;
but in the second case there must be no `$ref` left from an earlier declaration.

**Proof sketch.** The merge of written schemas is written for a schema, so it is read back, as a
reference exactly if it has a textual `$ref`. Under each keyword it has the merge of what the parts
have there, and among objects only this `$ref` says what they are read as. -/
theorem lastWins_mergeParts {s : Schema} (hseveral : 1 < (inlines s.allOf).length)
    (htidy : ∀ p ∈ inlines s.allOf, Every Tidy (.inline p)) :
    ∃ merged, s.mergeParts = { s with allOf := references s.allOf ++ [merged] } ∧
      ∀ names, (∀ above, above <+: names → above ≠ names →
          lastTarget? (declarations above ((inlines s.allOf).map .inline)) = none) →
        LastWins (declarations names ((inlines s.allOf).map .inline))
          (propertyAt? names merged) := by
  have hne : inlines s.allOf ≠ [] := List.ne_nil_of_length_pos (by omega)
  obtain ⟨r, hr, hmerged⟩ := exists_mergeAll htidy hne
  exact ⟨readBack r, mergeParts_of_merged hseveral hmerged, fun names => hr.lastWins_propertyAt?⟩

/-- Where owners are short texts and then whole numbers, they are whole numbers as short. -/
theorem lastWins_mergeParts_owner :
    let first : Schema := { ofType .string with keywords.maxLength := some 1 }
    let pet := declaredTwice "owner" (.inline first) (.inline (ofType .integer))
    ∃ merged s, pet.mergeParts = { pet with allOf := [merged] } ∧
      propertyAt? ["owner"] merged = some (.inline s) ∧
      s.toJson.get? "type" = some (.string "integer") ∧
      s.toJson.get? "maxLength" = some (.ofNat 1) := by
  intro first pet
  have hleaf {k : Keywords} (hk : Keywords.layout.Sound .tidy k) (hnone : k.extensions = {}) :
      Every Tidy (.inline { keywords := k }) := by
    refine .inline ⟨hk, ?_, List.nodup_nil⟩ (List.forall_mem_nil _)
    rw [hnone]
    exact ⟨List.nodup_nil, List.forall_mem_nil _, List.forall_mem_nil _⟩
  have hsound : Keywords.layout.Sound .tidy {} ∧ Keywords.layout.Sound .tidy first.keywords ∧
      Keywords.layout.Sound .tidy (ofType .integer).keywords := by
    simp [first, ofType, Layout.Sound, Keywords.layout, TypeSet.toJson, Json.ofNat]
  have htidy : ∀ p ∈ inlines pet.allOf, Every Tidy (.inline p) := by
    have hpart {r : SchemaRef} (hr : Every Tidy r) :
        Every Tidy (.inline { properties := ⟨[("owner", r)]⟩ }) := by
      refine .inline ⟨hsound.1, (hleaf hsound.1 rfl).node.extensions, List.nodup_singleton _⟩ ?_
      exact List.forall_mem_singleton.2 hr
    exact List.forall_mem_cons.2 ⟨hpart (hleaf hsound.2.1 rfl),
      List.forall_mem_singleton.2 (hpart (hleaf hsound.2.2 rfl))⟩
  obtain ⟨merged, hparts, hlast⟩ := lastWins_mergeParts (by decide) htidy
  have howner := hlast ["owner"] fun above hprefix hne => by
    rcases List.prefix_cons_iff.1 hprefix with rfl | ⟨rest, rfl, hrest⟩
    · rfl
    · exact absurd (congrArg _ (List.prefix_nil.1 hrest)) hne
  obtain ⟨s, hs⟩ := (howner.inline rfl).2 rfl
  exact ⟨merged, s, hparts, hs, howner.keyword hs (by decide), howner.keyword hs (by decide)⟩

/-- An earlier reference stays: the last declaration of the owner is a text, but the merged one is
the reference. -/
theorem earlier_reference_stays :
    let owner : SchemaRef := .ref (Reference.toSchema "Owner")
    let pet := declaredTwice "owner" owner text
    declarations ["owner"] ((inlines pet.allOf).map .inline) = [owner, text] ∧
      pet.mergeParts.allOf = [ofProperties [("owner", owner)]] :=
  ⟨rfl, rfl⟩

end Schema

end ApiLowering
