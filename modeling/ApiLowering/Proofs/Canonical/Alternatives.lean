import ApiLowering.Proofs.Canonical.Idempotence
import ApiLowering.Proofs.Codec.Returns

/-!
# Simple alternatives

With the switch for it, no schema of a canonical document has null among its alternatives, and none
has a sole alternative. Both are seen to at every schema, but after that the schema may be merged
with others, may take the alternatives of its part, or may become a part itself.

## Main definitions

* `Schema.NullOnly` — a schema has no type but null.
* `Schema.Simple` — a schema has no null alternative and no sole one.
* `Schema.FromSimple` — a value is merged from written schemas that are simple, at any depth.

## Main results

* `Schema.FromSimple.every_simple` — what is read from such a value is simple, at any depth.
* `Schema.every_simple_canonicalRef` — canonical forms are simple, at any depth.
* `Document.every_simple_canonical` — so are all schemas of a canonical document.
-/

namespace ApiLowering

open Canonical

namespace Schema

/-! ## Simple schemas -/

/-- An inline schema has no type but null: null is its type, or all of its types are null. -/
def NullOnly : SchemaRef → Prop
  | .ref _ => False
  | .inline s => s.keywords.types = some (.one .null) ∨
      ∃ ts, s.keywords.types = some (.several ts) ∧ ts ≠ [] ∧ ∀ t ∈ ts, t = .null

/-- No alternative is null, and none is the only one. -/
structure SimpleAlternatives (rs : List SchemaRef) : Prop where
  withoutNulls : ∀ r ∈ rs, ¬ NullOnly r
  several : rs.length ≠ 1

/-- The alternatives of a schema are simple. -/
structure Simple (s : Schema) : Prop where
  oneOf : SimpleAlternatives s.oneOf
  anyOf : SimpleAlternatives s.anyOf

/-- All schemas below a schema are simple. -/
def SimpleBelow (s : Schema) : Prop := ∀ r ∈ s.children, Every Simple r

/-- No alternative of a schema is null. -/
def WithoutNulls (s : Schema) : Prop :=
  (∀ r ∈ s.oneOf, ¬ NullOnly r) ∧ ∀ r ∈ s.anyOf, ¬ NullOnly r

/-- The names of the keywords that hold alternatives. -/
def alternativeNames : List String := ["oneOf", "anyOf"]

section Simple

variable {s t : Schema}

lemma isNullAlternative_iff {r : SchemaRef} : isNullAlternative r = true ↔ NullOnly r := by
  cases r with
  | ref path => exact iff_of_false Bool.false_ne_true id
  | inline s =>
    rw [isNullAlternative, Referable.inline?, Option.any_some, isNull, NullOnly]
    cases s.keywords.types with
    | none => simp
    | some types => cases types <;> simp

/-- Only the types count. -/
lemma nullOnly_congr (h : t.keywords.types = s.keywords.types) :
    NullOnly (.inline t) ↔ NullOnly (.inline s) := by
  rw [NullOnly, NullOnly, h]

lemma simpleAlternatives_nil : SimpleAlternatives [] := ⟨List.forall_mem_nil _, Nat.zero_ne_one⟩

lemma SimpleAlternatives.leftOverList {rs : List SchemaRef} (h : SimpleAlternatives rs)
    (outer : List SchemaRef) : SimpleAlternatives (leftOverList outer rs) := by
  rw [Schema.leftOverList]
  split
  · exact simpleAlternatives_nil
  · exact h

lemma Simple.listed (h : s.Simple) {key : String} (hkey : key ∈ alternativeNames) :
    SimpleAlternatives (s.listed key) := by
  rw [alternativeNames, List.mem_pair] at hkey
  rcases hkey with rfl | rfl
  · exact h.oneOf
  · exact h.anyOf

/-- Keywords without schemas do not count. -/
lemma every_simple_with_keywords (h : Every Simple (.inline s)) (k : Keywords) :
    Every Simple (.inline { s with keywords := k }) :=
  .inline ⟨h.node.oneOf, h.node.anyOf⟩ h.children

lemma SimpleBelow.of_subset (h : s.SimpleBelow) (hsubset : t.children ⊆ s.children) :
    t.SimpleBelow :=
  fun r hr => h r (hsubset hr)

end Simple

/-! ## Merged values -/

/-- A value is what a simple schema is written as, or merged from such values. -/
inductive FromSimple : Json → Prop
  | written {r : SchemaRef} : Every Lawful r → Every Simple r → FromSimple (refJson r)
  | merged {v w : Json} : FromSimple v → FromSimple w → FromSimple (v.merge w)

/-- A reference is written with nothing but its path. -/
lemma get?_refJson_ref {path key : String} (hkey : key ≠ "$ref") :
    (refJson (.ref path)).get? key = none := by
  rw [refJson_ref, Reference.toJson, Json.object_eq, Json.get?, Json.lookup_entered]
  simp [Json.lookup, hkey.symm]

/-- What is written under a keyword with schemas belongs to these. -/
lemma mem_schemasUnder_refJson {r : SchemaRef} (hr : Every Lawful r) {key : String}
    (hkey : key ∈ Keywords.childNames) {w : Json}
    (hw : w ∈ Json.schemasUnder key ((refJson r).get? key)) :
    ∃ s q, r = .inline s ∧ q ∈ s.childrenAt key ∧ refJson q = w := by
  cases r with
  | ref path =>
    rw [get?_refJson_ref (by rintro rfl; revert hkey; decide)] at hw
    cases hw
  | inline s =>
    rw [refJson_inline, get?_toJson_of_child hr.node.fresh hkey,
      mem_schemasUnder hr.node.distinct hkey] at hw
    obtain ⟨q, hq, hqw⟩ := hw
    exact ⟨s, q, rfl, hq, hqw⟩

namespace FromSimple

variable {v w : Json} {key : String}

lemma exists_increasing (h : FromSimple v) : ∃ es, v = .members es ∧ Json.Increasing es := by
  induction h with
  | written => exact exists_increasing_refJson _
  | merged _ _ ih ih' =>
    obtain ⟨es, rfl, hes⟩ := ih
    obtain ⟨fs, rfl, -⟩ := ih'
    exact ⟨_, rfl, Json.increasing_mergeMembers hes⟩

lemma get?_merge (hv : FromSimple v) (hw : FromSimple w) :
    (v.merge w).get? key = Json.mergeOption (v.get? key) (w.get? key) := by
  obtain ⟨es, rfl, -⟩ := hv.exists_increasing
  obtain ⟨fs, rfl, hfs⟩ := hw.exists_increasing
  rw [Json.merge_members, Json.get?_mergeMembers hfs.nodup]

/-- What is under a keyword with schemas in merged answers is there in one of them, or merged from
both. -/
lemma schemasUnder_mergeOption {o p : Option Json}
    (ho : ∀ w ∈ Json.schemasUnder key o, FromSimple w)
    (hp : ∀ w ∈ Json.schemasUnder key p, FromSimple w) :
    ∀ w ∈ Json.schemasUnder key (Json.mergeOption o p), FromSimple w := by
  cases o with
  | none => rwa [Json.mergeOption_none_left]
  | some a =>
    cases p with
    | none => exact ho
    | some b =>
      rw [Json.mergeOption]
      cases b with
      | array ys =>
        cases a with
        | array xs =>
          rw [Json.merge_array]
          exact fun w hw => (mem_addNewBy hw).elim (ho w) (hp w)
        | _ => exact hp
      | members fs =>
        cases a with
        | members es =>
          rw [Json.merge_members]
          simp only [Json.schemasUnder] at ho hp ⊢
          split_ifs at ho hp ⊢
          · simp only [List.forall_mem_map] at ho hp ⊢
            exact Json.forall_mem_mergeMembers ho fun e he =>
              ⟨hp e he, fun v hv => .merged hv (hp e he)⟩
          · simp only [List.forall_mem_singleton] at ho hp ⊢
            exact .merged ho hp
        | _ => exact hp
      | _ => cases a <;> exact hp

/-- What is under a keyword with schemas is merged from written schemas in turn. -/
lemma under (h : FromSimple v) (hkey : key ∈ Keywords.childNames) :
    ∀ w ∈ Json.schemasUnder key (v.get? key), FromSimple w := by
  induction h with
  | written hlawful hsimple =>
    intro w hw
    obtain ⟨s, q, rfl, hq, rfl⟩ := mem_schemasUnder_refJson hlawful hkey hw
    have hmem := mem_children_of_mem_childrenAt hq
    exact .written (hlawful.children q hmem) (hsimple.children q hmem)
  | merged hv hw ih ih' =>
    rw [hv.get?_merge hw]
    exact schemasUnder_mergeOption ih ih'

/-- Merged alternatives are at least two, and none is null. -/
lemma alternatives (h : FromSimple v) (hkey : key ∈ alternativeNames) :
    v.get? key = none ∨ ∃ xs, v.get? key = some (.array xs) ∧ 1 < xs.length ∧
      ∀ x ∈ xs, ∃ q, refJson q = x ∧ Every Lawful q ∧ ¬ NullOnly q := by
  induction h with
  | @written r hlawful hsimple =>
    cases r with
    | ref path => exact .inl (get?_refJson_ref (by rintro rfl; revert hkey; decide))
    | inline s =>
      obtain ⟨hnulls, hlength⟩ := hsimple.node.listed hkey
      rw [refJson_inline, toJson,
        get?_write_listed _ hlawful.node.fresh (List.mem_cons_of_mem _ hkey)]
      split
      · exact .inl rfl
      · rename_i hne
        have hpos := List.length_pos_of_ne_nil hne
        refine .inr ⟨_, rfl, by rw [List.length_map]; omega, fun x hx => ?_⟩
        obtain ⟨q, hq, rfl⟩ := List.mem_map.1 hx
        exact ⟨q, rfl, hlawful.children q (mem_children_of_mem_listed hq), hnulls q hq⟩
  | merged hv hw ih ih' =>
    rw [hv.get?_merge hw]
    rcases ih with hnone | ⟨xs, hxs, hlength, hall⟩
    · rw [hnone, Json.mergeOption_none_left]
      exact ih'
    · rcases ih' with hnone | ⟨ys, hys, -, hall'⟩
      · rw [hnone, Json.mergeOption_none_right]
        exact .inr ⟨xs, hxs, hlength, hall⟩
      · rw [hxs, hys, Json.mergeOption, Json.merge_array]
        refine .inr ⟨_, rfl, ?_, fun x hx => (mem_addNewBy hx).elim (hall x) (hall' x)⟩
        exact hlength.trans_le (prefix_addNewBy _ xs ys).length_le

end FromSimple

/-! ## Reading merged values -/

end Schema

/-- The type keyword is read back. -/
lemma Keywords.types_of_read? {es : List (String × Json)} {k : Keywords}
    (h : read? (Tree.ofMembers es) = some k) {types : Option TypeSet}
    (htypes : Json.lookup "type" es = types.map TypeSet.toJson) : k.types = types := by
  obtain ⟨f, hf, h⟩ := Option.bind_eq_some_iff.1 h
  obtain ⟨found, hfound, h⟩ := Option.bind_eq_some_iff.1 h
  iterate 26 obtain ⟨_, -, h⟩ := Option.bind_eq_some_iff.1 h
  obtain rfl := Option.some.inj h
  have hget : f.get? "type" = (types.map TypeSet.toJson).map Tree.ofJson := by
    rw [Fields.get?_ofMembers hf (by decide +kernel), htypes]
  have hread : f.optional? "type" TypeSet.read? = some (types.map id) := by
    refine (Fields.optional?_iff (Fields.positional_of_ofEntries? hf) hget ?_).2 ?_
    · rintro (t | ts) - hnull <;> cases hnull
    · exact fun ts _ => (Codec.typeSet.reads_iff trivial).2 trivial
  rw [hfound, Option.map_id_fun, id, Option.some.injEq] at hread
  exact hread

namespace Schema

/-- What is read as a schema is an object, whose members are read. -/
lemma exists_members_of_readNode? {v : Json} {s : Schema}
    (h : readNode? (Tree.ofJson v) = some (.inline s)) : ∃ es t, v = .members es ∧
      v.path? = none ∧ Keywords.read? (Tree.ofMembers es) = some s.keywords ∧
        readChildren? (Tree.ofMembers es) = some t ∧ t.children = s.children := by
  cases v <;> simp only [Tree.ofJson, readNode?, reduceCtorEq] at h
  case members es =>
    rw [Reference.path?_ofMembers] at h
    cases hpath : (Json.members es).path? with
    | some path => simp [hpath] at h
    | none =>
      simp only [hpath, Option.bind_eq_bind, Option.bind_eq_some_iff] at h
      obtain ⟨k, hk, t, ht, h⟩ := h
      obtain rfl := Referable.inline.inj (Option.some.inj h)
      exact ⟨es, t, rfl, rfl, hk, ht, rfl⟩

/-- The items of a list are under its keyword. -/
lemma exists_under_of_list {es : List (String × Json)} {key : String} {rs : List SchemaRef}
    (h : (Json.lookup key es).elim (some []) (fun v => readList? (Tree.ofJson v)) = some rs)
    {r : SchemaRef} (hr : r ∈ rs) : ∃ w ∈ Json.schemasUnder key ((Json.members es).get? key),
      readNode? (Tree.ofJson w) = some r := by
  obtain ⟨w, hw, hread⟩ := exists_mem_right_of_forall₂ (forall₂_of_lookup h) hr
  refine ⟨w, ?_, hread⟩
  rw [Json.itemsAt] at hw
  split at hw
  · rename_i xs hxs
    rw [hxs]
    exact hw
  · cases hw

/-- A single schema is what is under its keyword. -/
lemma exists_under_of_single {α : Type} {es : List (String × Json)} {key : String}
    {read : Json → Option (Option α)} {x : α} {r : SchemaRef} (hkey : key ≠ "properties")
    (h : (Json.lookup key es).elim (some none) read = some (some x))
    (hread : ∀ v, read v = some (some x) → readNode? (Tree.ofJson v) = some r) :
    ∃ w ∈ Json.schemasUnder key ((Json.members es).get? key),
      readNode? (Tree.ofJson w) = some r := by
  rw [Json.get?]
  cases hv : Json.lookup key es with
  | none =>
    rw [hv] at h
    cases h
  | some v =>
    rw [hv] at h
    have hnode := hread v h
    refine ⟨v, ?_, hnode⟩
    cases v with
    | members fs =>
      rw [Json.schemasUnder, if_neg hkey]
      exact List.mem_singleton_self _
    | _ => cases hnode

/-- The properties are under their keyword. -/
lemma exists_under_of_table {es : List (String × Json)} {t : Table SchemaRef}
    (h : (Json.lookup "properties" es).elim (some ⟨[]⟩) (fun v => readTable? (Tree.ofJson v)) =
      some t) {r : SchemaRef} (hr : r ∈ t.values) :
    ∃ w ∈ Json.schemasUnder "properties" ((Json.members es).get? "properties"),
      readNode? (Tree.ofJson w) = some r := by
  rw [Json.get?]
  cases hv : Json.lookup "properties" es with
  | none =>
    simp only [hv, Option.elim_none, Option.some.injEq] at h
    subst h
    cases hr
  | some v =>
    simp only [hv, Option.elim_some] at h
    cases v <;> simp only [Tree.ofJson, readTable?, reduceCtorEq] at h
    case members ps =>
      obtain ⟨qs, hqs, rfl⟩ := Option.map_eq_some_iff.1 h
      obtain ⟨⟨name, _⟩, he, rfl⟩ := List.mem_map.1 hr
      obtain ⟨p, hp, -, hread⟩ := exists_mem_right_of_forall₂
        (forall₂_of_readEntries?_ofMembers hqs) (Table.mem_of_mem_ofList he)
      rw [Json.schemasUnder, if_pos rfl]
      exact ⟨p.2, List.mem_map_of_mem hp, hread⟩

/-- The children of what is read are read from what is under the keywords with schemas. -/
lemma exists_under_of_mem_children {v : Json} {s : Schema}
    (h : readNode? (Tree.ofJson v) = some (.inline s)) {r : SchemaRef} (hr : r ∈ s.children) :
    ∃ key ∈ Keywords.childNames, ∃ w ∈ Json.schemasUnder key (v.get? key),
      readNode? (Tree.ofJson w) = some r := by
  obtain ⟨es, t, rfl, -, -, ht, hchildren⟩ := exists_members_of_readNode? h
  obtain ⟨hproperties, hallOf, honeOf, hanyOf, hitems, hnot, hadditional⟩ :=
    readChildren?_ofMembers ht
  rw [← hchildren, mem_children] at hr
  rcases hr with hr | hr | hr | hr | hr | hr | hr
  · exact ⟨"properties", by decide, exists_under_of_table hproperties hr⟩
  · rw [hr] at hitems
    exact ⟨"items", by decide, exists_under_of_single (by decide) hitems fun _ => of_optional?⟩
  · rw [hr] at hadditional
    exact ⟨"additionalProperties", by decide,
      exists_under_of_single (by decide) hadditional fun _ => of_additional?⟩
  · rw [hr] at hnot
    exact ⟨"not", by decide, exists_under_of_single (by decide) hnot fun _ => of_optional?⟩
  · exact ⟨"allOf", by decide, exists_under_of_list hallOf hr⟩
  · exact ⟨"oneOf", by decide, exists_under_of_list honeOf hr⟩
  · exact ⟨"anyOf", by decide, exists_under_of_list hanyOf hr⟩

/-- What is read back as null was null. -/
lemma not_nullOnly_of_read {q r : SchemaRef} (hq : Every Lawful q) (hnull : ¬ NullOnly q)
    (h : readNode? (Tree.ofJson (refJson q)) = some r) : ¬ NullOnly r := by
  cases r with
  | ref path => exact id
  | inline t =>
    obtain ⟨es, -, hes, hpath, hk, -, -⟩ := exists_members_of_readNode? h
    cases q with
    | ref path =>
      rw [refJson_ref] at hpath
      cases hpath
    | inline s =>
      have htypes : Json.lookup "type" es = s.keywords.types.map TypeSet.toJson := by
        have hmem : "type" ∈ Keywords.layout.names := by decide +kernel
        have hget := get?_toJson_of_keyword hq.node.fresh hmem
        rw [← refJson_inline, hes] at hget
        refine hget.trans ?_
        simp [Layout.members, Keywords.layout, Json.lookup_append, Json.lookup_member?,
          Json.lookup_listMember]
      exact mt (nullOnly_congr (Keywords.types_of_read? hk htypes)).1 hnull

/-- The alternatives that are read from a merged value are simple. -/
lemma FromSimple.simpleAlternatives {v : Json} (h : FromSimple v) {key : String}
    (hkey : key ∈ alternativeNames) {rs : List SchemaRef}
    (hrs : List.Forall₂ (fun x r => readNode? (Tree.ofJson x) = some r) (v.itemsAt key) rs) :
    SimpleAlternatives rs := by
  rcases h.alternatives hkey with hnone | ⟨xs, hxs, hlength, hall⟩
  · rw [Json.itemsAt, hnone] at hrs
    cases hrs
    exact simpleAlternatives_nil
  · rw [Json.itemsAt, hxs] at hrs
    refine ⟨fun r hr => ?_, hrs.length_eq ▸ Nat.ne_of_gt hlength⟩
    obtain ⟨x, hx, hread⟩ := exists_mem_right_of_forall₂ hrs hr
    obtain ⟨q, rfl, hq, hnull⟩ := hall x hx
    exact not_nullOnly_of_read hq hnull hread

/-- **What is read from a merged value is simple**, at any depth. -/
theorem FromSimple.every_simple {r : SchemaRef} :
    ∀ {v : Json}, FromSimple v → readNode? (Tree.ofJson v) = some r → Every Simple r := by
  induction r using ref_induction with
  | ref path => exact fun _ _ => .ref path
  | inline s ih =>
    intro v hv h
    have hnode : s.Simple := by
      rcases readNode?_ofJson h with ⟨path, -, hpath⟩ | ⟨-, t, hinline, hfrom⟩
      · cases hpath
      · obtain rfl := Referable.inline.inj hinline
        have honeOf : "oneOf" ∈ alternativeNames := by decide
        have hanyOf : "anyOf" ∈ alternativeNames := by decide
        exact ⟨hv.simpleAlternatives honeOf hfrom.oneOf, hv.simpleAlternatives hanyOf hfrom.anyOf⟩
    refine .inline hnode fun r hr => ?_
    obtain ⟨key, hkey, w, hw, hread⟩ := exists_under_of_mem_children h hr
    exact ih r hr (hv.under hkey w hw) hread

/-- Merged schemas are simple if all of them were. -/
lemma every_simple_mergeAll {ps : List Schema} {r : SchemaRef}
    (hlawful : ∀ p ∈ ps, Every Lawful (.inline p)) (hsimple : ∀ p ∈ ps, Every Simple (.inline p))
    (h : mergeAll ps = some r) : Every Simple r := by
  have hfold : ∀ (ps : List Schema) (v : Json), FromSimple v →
      (∀ p ∈ ps, Every Lawful (.inline p)) → (∀ p ∈ ps, Every Simple (.inline p)) →
        FromSimple (ps.foldl (fun acc p => acc.merge p.toJson) v) := by
    intro ps
    induction ps with
    | nil => exact fun _ hv _ _ => hv
    | cons p ps ih =>
      intro v hv hlawful hsimple
      have hp := FromSimple.written (hlawful p (by simp)) (hsimple p (by simp))
      rw [refJson_inline] at hp
      exact ih _ (.merged hv hp) (fun q hq => hlawful q (by simp [hq]))
        fun q hq => hsimple q (by simp [hq])
  -- merging starts with what an empty schema is written as
  have hempty : FromSimple (.members []) := by
    have hlawful : Lawful {} := ⟨List.forall_mem_nil _, List.nodup_nil⟩
    exact .written (.inline hlawful (List.forall_mem_nil _))
      (.inline ⟨simpleAlternatives_nil, simpleAlternatives_nil⟩ (List.forall_mem_nil _))
  rw [mergeAll, readRef?, Tree.settle?_ofJson, Option.bind_some] at h
  exact (hfold ps _ hempty hlawful hsimple).every_simple h

/-! ## Steps -/

section Steps

variable {s : Schema} {sw : Switches}

/-- Null alternatives are dropped. -/
lemma withoutNulls_dropNulls (hsw : sw.simplifyAlternatives = true) (s : Schema) :
    (s.dropNulls sw).WithoutNulls := by
  have hfilter (rs : List SchemaRef) :
      ∀ r ∈ rs.filter (!isNullAlternative ·), ¬ NullOnly r := fun r hr hnull => by
    simpa [isNullAlternative_iff.2 hnull] using (List.mem_filter.1 hr).2
  rw [dropNulls, hsw, Bool.true_and]
  split
  · exact ⟨hfilter s.oneOf, hfilter s.anyOf⟩
  · rename_i hnone
    simp only [List.any_eq_true, not_exists, not_and, isNullAlternative_iff] at hnone
    exact List.forall_mem_append.1 hnone

/-- Several parts become one that is simple. -/
lemma simpleBelow_unifyParts (hlawful : Every Lawful (.inline s)) (h : s.SimpleBelow) :
    s.unifyParts.SimpleBelow := by
  rw [unifyParts]
  split
  · have horder : s.orderParts.SimpleBelow := fun r hr => by
      rcases mem_children_with_allOf hr with hr | hr
      · exact h r hr
      · rcases List.mem_append.1 hr with hr | hr
        · exact h r (mem_children_of_mem_allOf (mem_references.1 hr).1)
        · obtain ⟨p, hp, rfl⟩ := List.mem_map.1 hr
          have hpart := h _ (mem_children_of_mem_allOf (mem_inlines.1 hp))
          exact every_simple_with_keywords hpart _
    have hlawful' := hereditary_lawful.every_orderParts hlawful
    by_cases hmerge : 1 < (inlines s.orderParts.allOf).length →
        mergeAll (inlines s.orderParts.allOf) = none
    · rwa [mergeParts_eq_self hmerge]
    · obtain ⟨hlength, hsome⟩ := Classical.not_imp.1 hmerge
      obtain ⟨merged, hmerged⟩ := Option.ne_none_iff_exists'.1 hsome
      have hpart {p : Schema} (hp : p ∈ inlines s.orderParts.allOf) :=
        mem_children_of_mem_allOf (mem_inlines.1 hp)
      rw [mergeParts_of_merged hlength hmerged]
      intro r hr
      rcases mem_children_with_allOf hr with hr | hr
      · exact horder r hr
      · rcases List.mem_append.1 hr with hr | hr
        · exact horder r (mem_children_of_mem_allOf (mem_references.1 hr).1)
        · rw [List.mem_singleton.1 hr]
          exact every_simple_mergeAll (fun p hp => hlawful'.children _ (hpart hp))
            (fun p hp => horder _ (hpart hp)) hmerged
  · exact h

lemma withoutNulls_unifyParts (h : s.WithoutNulls) : s.unifyParts.WithoutNulls := by
  rw [unifyParts]
  split
  · rw [mergeParts]
    split
    · split <;> exact h
    · exact h
  · exact h

/-- A whole takes simple alternatives from its part, and leaves a simple part. -/
lemma simpleBelow_lift (h : s.SimpleBelow) (hnulls : s.WithoutNulls) :
    s.lift.SimpleBelow ∧ s.lift.WithoutNulls := by
  by_cases hsole : ∃ p, inlines s.allOf = [p]
  · obtain ⟨p, hp⟩ := hsole
    have hpart : Every Simple (.inline p) :=
      h _ (mem_children_of_mem_allOf (mem_inlines.1 (hp ▸ List.mem_singleton_self p)))
    have hremainder : Every Simple (.inline (s.remainder p)) :=
      .inline ⟨hpart.node.oneOf.leftOverList _, hpart.node.anyOf.leftOverList _⟩ fun r hr =>
        hpart.children r (children_remainder_subset s p hr)
    have htaken {outer inner : List SchemaRef} (houter : ∀ r ∈ outer, ¬ NullOnly r)
        (hinner : SimpleAlternatives inner) :
        ∀ r ∈ takenList outer inner, ¬ NullOnly r := by
      rw [takenList]
      split
      · exact hinner.withoutNulls
      · exact houter
    refine ⟨fun r hr => ?_, ?_⟩
    · rcases mem_children_lift hp hr with hr | hr | rfl
      · exact h r hr
      · exact hpart.children r hr
      · exact hremainder
    · rw [lift_of_inlines hp]
      exact ⟨htaken hnulls.1 hpart.node.oneOf, htaken hnulls.2 hpart.node.anyOf⟩
  · rw [lift_eq_self fun p hp => hsole ⟨p, hp⟩]
    exact ⟨h, hnulls⟩

lemma simpleBelow_withType (h : s.SimpleBelow) (hnulls : s.WithoutNulls) :
    s.withType.SimpleBelow ∧ s.withType.WithoutNulls := by
  rw [withType]
  split
  · exact ⟨List.forall_mem_nil _, List.forall_mem_nil _, List.forall_mem_nil _⟩
  · exact ⟨h, hnulls⟩

/-- A sole alternative takes the place of the whole, or becomes a part of it. -/
lemma absorb_simple (h : s.SimpleBelow) {r : SchemaRef} (hr : Every Simple r) :
    (∃ q, s.absorb r = .inl q ∧ Every Simple q) ∨
      s.absorb r = .inr { s with allOf := s.allOf ++ [r] } ∧
        ({ s with allOf := s.allOf ++ [r] } : Schema).SimpleBelow := by
  rcases absorb_cases s r with heq | heq | ⟨p, rfl, heq⟩
  · refine .inr ⟨heq, fun q hq => ?_⟩
    rcases mem_children_with_allOf hq with hq | hq
    · exact h q hq
    · rcases List.mem_append.1 hq with hq | hq
      · exact h q (mem_children_of_mem_allOf hq)
      · exact List.mem_singleton.1 hq ▸ hr
  · exact .inl ⟨r, heq, hr⟩
  · exact .inl ⟨_, heq, every_simple_with_keywords hr _⟩

/-- With a sole alternative of the first kind absorbed, those of the first kind are simple. -/
lemma absorbOneOf_simple (h : s.SimpleBelow) (hnulls : s.WithoutNulls) :
    (∃ q, s.absorbOneOf = .inl q ∧ Every Simple q) ∨
      ∃ t, s.absorbOneOf = .inr t ∧ t.SimpleBelow ∧ SimpleAlternatives t.oneOf ∧
        t.anyOf = s.anyOf := by
  rw [absorbOneOf]
  split
  · rename_i r hr
    have hbelow := h.of_subset (children_without_oneOf_subset s)
    rcases absorb_simple hbelow (h r (mem_children.2 (by simp [hr]))) with hinl | ⟨heq, hpart⟩
    · exact .inl hinl
    · exact .inr ⟨_, heq, hpart, simpleAlternatives_nil, rfl⟩
  · rename_i hsole
    refine .inr ⟨s, rfl, h, ⟨hnulls.1, fun hlength => ?_⟩, rfl⟩
    obtain ⟨r, hr⟩ := List.length_eq_one_iff.1 hlength
    exact hsole r hr

/-- With those of the second kind absorbed as well, the schema is simple. -/
lemma absorbAnyOf_simple (h : s.SimpleBelow) (honeOf : SimpleAlternatives s.oneOf)
    (hnulls : ∀ r ∈ s.anyOf, ¬ NullOnly r) :
    Every Simple (unabsorbed s.absorbAnyOf) := by
  rw [absorbAnyOf]
  split
  · rename_i r hr
    have hbelow := h.of_subset (children_without_anyOf_subset s)
    rcases absorb_simple hbelow (h r (mem_children.2 (by simp [hr]))) with
      ⟨q, heq, hq⟩ | ⟨heq, hpart⟩
    · rw [heq]
      exact hq
    · rw [heq]
      exact .inline ⟨honeOf, simpleAlternatives_nil⟩ hpart
  · rename_i hsole
    refine .inline ⟨honeOf, hnulls, fun hlength => ?_⟩ h
    obtain ⟨r, hr⟩ := List.length_eq_one_iff.1 hlength
    exact hsole r hr

/-- What a schema comes down to is simple. -/
lemma every_simple_collapse (hsw : sw.simplifyAlternatives = true) (h : s.SimpleBelow)
    (hnulls : s.WithoutNulls) : Every Simple (s.collapse sw) := by
  rw [collapse]
  split
  · exact .ref _
  · rw [if_pos hsw, absorbAlternatives]
    rcases absorbOneOf_simple h hnulls with ⟨q, heq, hq⟩ | ⟨t, heq, hbelow, honeOf, hanyOf⟩
    · simp only [heq]
      exact hq
    · have hsimple := absorbAnyOf_simple hbelow honeOf (hanyOf ▸ hnulls.2)
      simp only [heq]
      cases habsorb : t.absorbAnyOf with
      | inl r =>
        rw [habsorb] at hsimple
        exact hsimple
      | inr u =>
        rw [habsorb] at hsimple
        exact hsimple

/-- The canonical form of a schema is simple if all below it is. -/
lemma every_simple_canonicalNode (hsw : sw.simplifyAlternatives = true)
    (hlawful : Every Lawful (.inline s)) (h : s.SimpleBelow) :
    Every Simple (s.canonicalNode sw) := by
  have hlawful' := hereditary_lawful.every_dropNulls
    (hereditary_lawful.every_dropAlternatives (hereditary_lawful.every_distinctParts hlawful) sw) sw
  have htrim : ((s.distinctParts.dropAlternatives sw).dropNulls sw).SimpleBelow :=
    ((h.of_subset (children_distinctParts_subset s)).of_subset
      (children_dropAlternatives_subset sw _)).of_subset (children_dropNulls_subset sw _)
  have hunited := simpleBelow_unifyParts hlawful' htrim
  obtain ⟨hlifted, hnulls⟩ := simpleBelow_lift hunited
    (withoutNulls_unifyParts (withoutNulls_dropNulls hsw (s.distinctParts.dropAlternatives sw)))
  obtain ⟨htyped, hnulls⟩ := simpleBelow_withType hlifted hnulls
  exact every_simple_collapse hsw htyped hnulls

end Steps

/-- **Canonical forms are simple**, at any depth. -/
theorem every_simple_canonicalRef {sw : Switches} (hsw : sw.simplifyAlternatives = true)
    {r : SchemaRef} (hr : Every Lawful r) : Every Simple (canonicalRef sw r) := by
  induction hr with
  | ref path =>
    rw [canonicalRef_ref]
    exact .ref path
  | @inline s hs hchildren ih =>
    rw [canonicalRef_inline]
    have hlawful := hereditary_lawful.every_mapChildren sw (.inline hs hchildren)
    refine every_simple_canonicalNode hsw hlawful fun r hr => ?_
    rw [children_mapChildren] at hr
    obtain ⟨q, hq, rfl⟩ := List.mem_map.1 hr
    exact ih q hq

end Schema

/-! ## Documents -/

namespace Document

open Schema

/-- **All schemas of a canonical document are simple**, at any depth: with the switch for it, none
has null among its alternatives, and none has a sole alternative. -/
theorem every_simple_canonical {t : Tree} {d : Document} (h : ofTree? t = some d) {sw : Switches}
    (hsw : sw.simplifyAlternatives = true) : EverySchema (Every Simple) (d.canonical sw) :=
  every_canonical (fun _ hr => every_simple_canonicalRef hsw hr) (every_lawful_of_ofTree? h)

/-- A document in which a pet is a cat or null, and the name of a cat has a sole alternative. -/
def nullablePet : Tree := .ofJson (.object [
  ("openapi", .string "3.1.0"),
  ("info", .object [("title", .string "Nullable"), ("version", .string "1")]),
  ("components", .object [("schemas", .object [
    ("Cat", .object [("properties", .object [
      ("name", .object [("anyOf", .array [.object [("type", .string "string")]])])])]),
    ("Pet", .object [("oneOf", .array [
      .object [("$ref", .string "#/components/schemas/Cat")],
      .object [("type", .array [.string "null"])]])])])])])

/-- Without the switch, null is still an alternative. -/
theorem every_simple_canonical_nullablePet : ∃ d, ofTree? nullablePet = some d ∧
    EverySchema (Every Simple) (d.canonical { simplifyAlternatives := true }) ∧
      ¬ EverySchema (Every Simple) (d.canonical {}) := by
  have h : ((ofTree? nullablePet).any fun d => (HasSchemas.schemas (d.canonical {})).any fun r =>
      r.inline?.any fun s => s.oneOf.any isNullAlternative) = true := by
    decide +kernel
  obtain ⟨hsome, hnull⟩ := (Option.any_eq_true_iff_get _ _).1 h
  have hread := (Option.some_get hsome).symm
  refine ⟨_, hread, every_simple_canonical hread rfl, fun hall => ?_⟩
  obtain ⟨r, hr, hany⟩ := List.any_eq_true.1 hnull
  cases r with
  | ref path => cases hany
  | inline s =>
    obtain ⟨q, hq, hnull⟩ := List.any_eq_true.1 hany
    exact (hall _ hr).node.oneOf.withoutNulls q hq (isNullAlternative_iff.1 hnull)

end Document

end ApiLowering
