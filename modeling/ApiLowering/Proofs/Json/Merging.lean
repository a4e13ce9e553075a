import ApiLowering.Canonical.Schema
import ApiLowering.Proofs.Json.Objects
import ApiLowering.Proofs.Lists
import ApiLowering.Tree
import Mathlib.Data.List.Induction

/-!
# Merged and tidy values

What a merged object answers when it is asked for a key, and what a merged array holds.

A value is tidy if the members of every object in it are in the order of their keys. Every value
that comes out of a tree is tidy, merging keeps values tidy, and a tidy value comes out again of the
tree that it is turned into.

## Main definitions

* `Json.mergeOption`, `Json.mergeAnswers` — the merge of two answers, of many answers.
* `Json.isScalar` — whether a value is neither an array nor an object.
* `Json.Tidy` — every object in a value has its members in order.

## Main results

* `Json.lookup_mergeMembers` — a merged object answers with the merge of the answers.
* `Json.mem_itemsAt_mergeMembers`, `Json.exists_same_mem_itemsAt_mergeMembers` — the items of a
  merged array are those of both.
* `Json.mem_keysAt_mergeMembers` — the keys of a merged object are those of both.
* `Json.entered_eq_sortByKey` — the members of an object are its entries in order.
* `Json.Tidy.merge` — merging keeps values tidy.
* `Tree.toJson?_ofJson` — a tidy value comes out of its tree.
* `Tree.tidy_of_toJson?` — what comes out of a tree is tidy.
-/

namespace ApiLowering

namespace Json

/-- Every value equals itself. -/
lemma same_refl (v : Json) : v.same v = true := (same_iff v v).2 rfl

/-! ## Merging one value into another -/

lemma merge_members (es fs : List (String × Json)) :
    merge (members es) (members fs) = members (mergeMembers es fs) :=
  rfl

/-- A merged array is the first one with what is new in the second one. -/
lemma merge_array (xs ys : List Json) :
    merge (.array xs) (.array ys) = .array (addNewBy same xs ys) :=
  rfl

lemma mergeMembers_nil (es : List (String × Json)) : mergeMembers es [] = es := rfl

lemma mergeMembers_cons (es fs : List (String × Json)) (f : String × Json) :
    mergeMembers es (f :: fs) = mergeMembers (mergeMember es f) fs :=
  rfl

lemma mergeMember_pair (es : List (String × Json)) (key : String) (value : Json) :
    mergeMember es (key, value) = match lookup key es with
      | some w => enter key (merge w value) es
      | none => enter key value es :=
  rfl

/-- Whether a value is neither an array nor an object. -/
def isScalar : Json → Bool
  | .array _ => false
  | .members _ => false
  | _ => true

/-- A scalar stays as it is, whatever it is merged into. -/
lemma merge_of_isScalar {v w : Json} (h : w.isScalar = true) : merge v w = w := by
  cases w with
  | array ys => cases h
  | members fs => cases h
  | _ => cases v <;> rfl

/-- A merged value is a text only if the second value is. -/
lemma string?_merge (v w : Json) : (merge v w).string? = w.string? := by
  cases v <;> cases w <;> rfl

lemma merge_ne_null {v w : Json} (h : w ≠ .null) : merge v w ≠ .null := by
  cases v <;> cases w <;> first | exact h | exact fun hnull => Json.noConfusion hnull

/-! ## Members -/

/-- The merge of two answers. -/
def mergeOption : Option Json → Option Json → Option Json
  | some v, some w => some (merge v w)
  | some v, none => some v
  | none, o => o

@[simp] lemma mergeOption_none_left (o : Option Json) : mergeOption none o = o := by
  cases o <;> rfl

@[simp] lemma mergeOption_none_right (o : Option Json) : mergeOption o none = o := by
  cases o <;> rfl

lemma mergeMember_eq (xs : List (String × Json)) (key : String) (value : Json) :
    ∃ v, mergeMember xs (key, value) = enter key v xs ∧
      mergeOption (lookup key xs) (some value) = some v := by
  rw [mergeMember_pair]
  cases lookup key xs with
  | none => exact ⟨value, rfl, rfl⟩
  | some w => exact ⟨merge w value, rfl, rfl⟩

lemma mem_keys_mergeMembers {key : String} {xs ys : List (String × Json)} :
    key ∈ (mergeMembers xs ys).map Prod.fst ↔ key ∈ xs.map Prod.fst ∨ key ∈ ys.map Prod.fst := by
  induction ys generalizing xs with
  | nil => simp [mergeMembers_nil]
  | cons y rest ih =>
    obtain ⟨k, value⟩ := y
    obtain ⟨v, hv, -⟩ := mergeMember_eq xs k value
    rw [mergeMembers_cons, ih, hv, mem_keys_enter, List.map_cons, List.mem_cons]
    tauto

/-- Merged members are in order. -/
lemma increasing_mergeMembers {xs ys : List (String × Json)} (h : Increasing xs) :
    Increasing (mergeMembers xs ys) := by
  induction ys generalizing xs with
  | nil => exact h
  | cons y rest ih =>
    obtain ⟨k, value⟩ := y
    obtain ⟨v, hv, -⟩ := mergeMember_eq xs k value
    rw [mergeMembers_cons, hv]
    exact ih (increasing_enter h)

/-- A merged object answers with the merge of the answers. -/
lemma lookup_mergeMembers (key : String) {xs ys : List (String × Json)}
    (hys : (ys.map Prod.fst).Nodup) :
    lookup key (mergeMembers xs ys) = mergeOption (lookup key xs) (lookup key ys) := by
  induction ys generalizing xs with
  | nil => simp [mergeMembers_nil, lookup]
  | cons y rest ih =>
    obtain ⟨k, value⟩ := y
    rw [List.map_cons, List.nodup_cons] at hys
    obtain ⟨v, hv, hmerge⟩ := mergeMember_eq xs k value
    rw [mergeMembers_cons, ih hys.2, hv, lookup_enter, lookup]
    by_cases hk : key = k
    · subst hk
      rw [if_pos rfl, if_pos rfl, hmerge, lookup_eq_none_iff.2 hys.1]
      rfl
    · rw [if_neg hk, if_neg (Ne.symm hk)]

/-- Each member of a merged object is one of either object, or the merge of one of each. -/
lemma mem_mergeMembers {es fs : List (String × Json)} (hes : Increasing es) (hfs : Increasing fs)
    {e : String × Json} (h : e ∈ mergeMembers es fs) :
    e ∈ es ∨ e ∈ fs ∨ ∃ v w, (e.1, v) ∈ es ∧ (e.1, w) ∈ fs ∧ e.2 = merge v w := by
  have hanswer := lookup_eq_some_of_mem (increasing_mergeMembers hes).nodup h
  rw [lookup_mergeMembers _ hfs.nodup] at hanswer
  cases hv : lookup e.1 es with
  | none =>
    rw [hv, mergeOption_none_left] at hanswer
    exact .inr (.inl (mem_of_lookup_eq_some hanswer))
  | some v =>
    cases hw : lookup e.1 fs with
    | none =>
      rw [hv, hw, mergeOption_none_right] at hanswer
      exact .inl (mem_of_lookup_eq_some (hv.trans hanswer))
    | some w =>
      rw [hv, hw] at hanswer
      exact .inr (.inr ⟨v, w, mem_of_lookup_eq_some hv, mem_of_lookup_eq_some hw,
        (Option.some.inj hanswer).symm⟩)

/-- Two objects merge to the object that answers with the merge of the answers. -/
lemma members_eq_merge {es fs gs : List (String × Json)} (hes : Increasing es)
    (hfs : Increasing fs) (hgs : Increasing gs)
    (h : ∀ key, lookup key gs = mergeOption (lookup key es) (lookup key fs)) :
    members gs = merge (members es) (members fs) := by
  rw [merge_members]
  refine congrArg members (eq_of_lookup_eq hgs (increasing_mergeMembers hes) fun key => ?_)
  rw [lookup_mergeMembers key hfs.nodup, h]

/-! ## Many answers -/

/-- The merge of some answers, first to last. -/
def mergeAnswers (os : List (Option Json)) : Option Json := os.foldl mergeOption none

@[simp] lemma mergeAnswers_nil : mergeAnswers [] = none := rfl

lemma mergeAnswers_concat (os : List (Option Json)) (o : Option Json) :
    mergeAnswers (os ++ [o]) = mergeOption (mergeAnswers os) o := by
  rw [mergeAnswers, List.foldl_append]
  rfl

@[simp] lemma isSome_mergeOption (o p : Option Json) :
    (mergeOption o p).isSome = (o.isSome || p.isSome) := by
  cases o <;> cases p <;> rfl

/-- There is a merged answer exactly if there is one of the answers. -/
lemma isSome_mergeAnswers {os : List (Option Json)} :
    (mergeAnswers os).isSome ↔ ∃ o ∈ os, o.isSome := by
  induction os using List.reverseRecOn with
  | nil => simp
  | append_singleton os o ih =>
    rw [mergeAnswers_concat, isSome_mergeOption, Bool.or_eq_true, ih]
    simp [or_and_right, exists_or]

/-- A scalar that is the last answer is the merged one. -/
lemma mergeAnswers_concat_of_isScalar (os : List (Option Json)) {v : Json}
    (h : v.isScalar = true) : mergeAnswers (os ++ [some v]) = some v := by
  rw [mergeAnswers_concat]
  cases mergeAnswers os with
  | none => rfl
  | some w => rw [mergeOption, merge_of_isScalar h]

/-- Where there is no answer there is nothing to merge. -/
lemma mergeAnswers_map {α : Type} (f : α → Option Json) (xs : List α) :
    mergeAnswers (xs.map f) = mergeAnswers ((xs.filterMap f).map some) := by
  induction xs using List.reverseRecOn with
  | nil => rfl
  | append_singleton xs x ih =>
    rw [List.map_append, List.map_singleton, mergeAnswers_concat, ih, List.filterMap_append,
      List.map_append]
    cases hx : f x with
    | none => simp [hx]
    | some v => rw [List.filterMap_cons_some hx, List.filterMap_nil, List.map_singleton,
        mergeAnswers_concat]

/-- A sole answer is the merged one. -/
lemma mergeAnswers_of_sole {α : Type} {f : α → Option Json} {before after : List α} {x : α}
    (h : ∀ y ∈ before ++ after, f y = none) :
    mergeAnswers ((before ++ x :: after).map f) = f x := by
  have hbefore : before.filterMap f = [] :=
    List.filterMap_eq_nil_iff.2 fun y hy => h y (List.mem_append_left _ hy)
  have hafter : after.filterMap f = [] :=
    List.filterMap_eq_nil_iff.2 fun y hy => h y (List.mem_append_right _ hy)
  rw [mergeAnswers_map, List.filterMap_append, hbefore, List.nil_append]
  cases hx : f x with
  | none => rw [List.filterMap_cons_none hx, hafter]; rfl
  | some v => rw [List.filterMap_cons_some hx, hafter]; rfl

/-- The merged answer is a text exactly if the last answer is. -/
lemma mergeAnswers_bind_string? (vs : List Json) :
    (mergeAnswers (vs.map some)).bind string? = vs.getLast?.bind string? := by
  induction vs using List.reverseRecOn with
  | nil => rfl
  | append_singleton vs v _ =>
    rw [List.map_append, List.map_singleton, mergeAnswers_concat, List.getLast?_concat]
    cases mergeAnswers (vs.map some) with
    | none => rfl
    | some w => exact string?_merge w v

/-- What is merged into an empty object stays as it is. -/
lemma merge_empty {es : List (String × Json)} (hes : Increasing es) :
    merge (members []) (members es) = members es :=
  (members_eq_merge List.Pairwise.nil hes hes fun _ => (mergeOption_none_left _).symm).symm

/-! ## Collections under a key -/

section Collections

variable {key : String} {es fs : List (String × Json)}

/-- A merged object answers with the merge of the answers. -/
lemma get?_mergeMembers (hfs : (fs.map Prod.fst).Nodup) :
    (members (mergeMembers es fs)).get? key =
      mergeOption ((members es).get? key) ((members fs).get? key) :=
  lookup_mergeMembers key hfs

lemma arrayAt_mergeMembers (hfs : (fs.map Prod.fst).Nodup) (h : ArrayAt key (.members es))
    (h' : ArrayAt key (.members fs)) : ArrayAt key (.members (mergeMembers es fs)) := by
  rw [ArrayAt, get?_mergeMembers hfs]
  rcases h with h | ⟨xs, h⟩ <;> rcases h' with h' | ⟨ys, h'⟩ <;>
    simp [h, h', mergeOption, merge_array]

lemma objectAt_mergeMembers (hfs : (fs.map Prod.fst).Nodup) (h : ObjectAt key (.members es))
    (h' : ObjectAt key (.members fs)) : ObjectAt key (.members (mergeMembers es fs)) := by
  rw [ObjectAt, get?_mergeMembers hfs]
  rcases h with h | ⟨xs, h⟩ <;> rcases h' with h' | ⟨ys, h'⟩ <;>
    simp [h, h', mergeOption, merge_members]

/-- The items of merged arrays are some of those of both. -/
lemma itemsAt_mergeMembers_sublist (hfs : (fs.map Prod.fst).Nodup)
    (h : ArrayAt key (.members es)) (h' : ArrayAt key (.members fs)) :
    ((members (mergeMembers es fs)).itemsAt key).Sublist
      ((members es).itemsAt key ++ (members fs).itemsAt key) := by
  rw [itemsAt, get?_mergeMembers hfs]
  rcases h with h | ⟨xs, h⟩ <;> rcases h' with h' | ⟨ys, h'⟩ <;>
    simp only [itemsAt, h, h', mergeOption, merge_array]
  · exact List.Sublist.refl _
  · exact List.sublist_append_right _ _
  · exact List.sublist_append_left _ _
  · exact addNewBy_sublist same xs ys

lemma mem_itemsAt_mergeMembers (hfs : (fs.map Prod.fst).Nodup) (h : ArrayAt key (.members es))
    (h' : ArrayAt key (.members fs)) {x : Json}
    (hx : x ∈ (members (mergeMembers es fs)).itemsAt key) :
    x ∈ (members es).itemsAt key ∨ x ∈ (members fs).itemsAt key :=
  List.mem_append.1 ((itemsAt_mergeMembers_sublist hfs h h').subset hx)

/-- Every item of either array has an equal one in the merged array. -/
lemma exists_same_mem_itemsAt_mergeMembers (hfs : (fs.map Prod.fst).Nodup)
    (h : ArrayAt key (.members es)) (h' : ArrayAt key (.members fs)) {x : Json}
    (hx : x ∈ (members es).itemsAt key ∨ x ∈ (members fs).itemsAt key) :
    ∃ y ∈ (members (mergeMembers es fs)).itemsAt key, y.same x = true := by
  rw [itemsAt, get?_mergeMembers hfs]
  rcases h with h | ⟨xs, h⟩ <;> rcases h' with h' | ⟨ys, h'⟩ <;>
    simp only [itemsAt, h, h'] at hx <;> simp only [h, h', mergeOption, merge_array]
  · simp at hx
  · exact ⟨x, by simpa using hx, same_refl x⟩
  · exact ⟨x, by simpa using hx, same_refl x⟩
  · rcases hx with hx | hx
    · exact ⟨x, mem_addNewBy_of_mem hx, same_refl x⟩
    · exact exists_same_mem_addNewBy same_refl hx

/-- The keys of merged objects are those of both. -/
lemma mem_keysAt_mergeMembers (hfs : (fs.map Prod.fst).Nodup) (h : ObjectAt key (.members es))
    (h' : ObjectAt key (.members fs)) {n : String} :
    n ∈ (members (mergeMembers es fs)).keysAt key ↔
      n ∈ (members es).keysAt key ∨ n ∈ (members fs).keysAt key := by
  rw [keysAt, get?_mergeMembers hfs]
  rcases h with h | ⟨xs, h⟩ <;> rcases h' with h' | ⟨ys, h'⟩ <;>
    simp only [keysAt, h, h', mergeOption, merge_members, mem_keys_mergeMembers] <;> simp

end Collections


/-! ## Objects in order -/

/-- Members in order are those of an object. -/
lemma entered_of_increasing {es : List (String × Json)} (h : Increasing es) : entered es = es :=
  eq_of_lookup_eq (increasing_entered es) h fun key => lookup_entered_of_nodup key h.nodup

lemma mem_of_mem_entered {es : List (String × Json)} {e : String × Json} (h : e ∈ entered es) :
    e ∈ es := by
  have hlookup := lookup_eq_some_of_mem (increasing_entered es).nodup h
  rw [lookup_entered] at hlookup
  exact List.mem_reverse.1 (mem_of_lookup_eq_some hlookup)

/-- The members of an object are its entries in order, if no key is there twice. -/
lemma entered_eq_sortByKey {t : Table Json} (h : t.keys.Nodup) :
    entered t.entries = t.sortByKey.entries := by
  have hperm := t.entries_sortByKey_perm
  have hnodup : (t.sortByKey.entries.map Prod.fst).Nodup := (hperm.map Prod.fst).nodup_iff.2 h
  refine eq_of_lookup_eq (increasing_entered _)
    (List.pairwise_map.1 (Table.pairwise_keys_sortByKey h)) fun key => ?_
  rw [lookup_entered_of_nodup key h]
  cases hv : lookup key t.entries with
  | none =>
    rw [lookup_eq_none_iff] at hv
    rw [eq_comm, lookup_eq_none_iff, (hperm.map Prod.fst).mem_iff]
    exact hv
  | some v =>
    rw [lookup_eq_some_of_mem hnodup (hperm.mem_iff.2 (mem_of_lookup_eq_some hv))]

/-- A table is written as the object of its entries in order. -/
lemma ofTable_eq {α : Type} {t : Table α} (write : α → Json) (h : t.keys.Nodup) :
    ofTable t write = .members (t.sortByKey.map write).entries := by
  have hkeys : (t.map write).keys.Nodup := (Table.keys_map write t).symm ▸ h
  rw [← Table.sortByKey_map, ← entered_eq_sortByKey hkeys]
  rfl

/-- A table is written as an object that answers with its values. -/
lemma get?_ofTable {α : Type} {t : Table α} (write : α → Json) (h : t.keys.Nodup)
    (key : String) : (ofTable t write).get? key = (t.find? key).map write := by
  have hkeys : (t.map write).keys.Nodup := (Table.keys_map write t).symm ▸ h
  change lookup key (entered (t.map write).entries) = _
  rw [lookup_entered_of_nodup key hkeys, lookup_eq_lookup]
  exact Table.find?_map write t key

/-! ## Tidy values -/

/-- Every object in a value has its members in order. -/
inductive Tidy : Json → Prop
  | null : Tidy .null
  | bool (b : Bool) : Tidy (.bool b)
  | number (n : Number) : Tidy (.number n)
  | string (s : String) : Tidy (.string s)
  | array {xs : List Json} : (∀ x ∈ xs, Tidy x) → Tidy (.array xs)
  | members {es : List (String × Json)} : Increasing es → (∀ e ∈ es, Tidy e.2) →
    Tidy (.members es)

/-- The object of tidy members is tidy, whatever their order. -/
lemma tidy_object {es : List (String × Json)} (h : ∀ e ∈ es, Tidy e.2) : (object es).Tidy :=
  .members (increasing_entered es) fun e he => h e (mem_of_mem_entered he)

lemma tidy_ofTable {α : Type} {t : Table α} {write : α → Json}
    (h : ∀ v ∈ t.values, (write v).Tidy) : (ofTable t write).Tidy := by
  refine tidy_object fun e he => ?_
  obtain ⟨f, hf, rfl⟩ := List.mem_map.1 he
  exact h f.2 (List.mem_map_of_mem hf)

section Members

variable {α : Type} {name : String} {write : α → Json}

lemma tidy_member? {value : Option α} (h : ∀ v, value = some v → (write v).Tidy) :
    ∀ e ∈ member? name value write, e.2.Tidy := by
  cases value with
  | none => exact List.forall_mem_nil _
  | some v => exact List.forall_mem_singleton.2 (h v rfl)

lemma tidy_listMember {values : List α} (h : ∀ v ∈ values, (write v).Tidy) :
    ∀ e ∈ listMember name values write, e.2.Tidy := by
  rw [listMember, arrayMember]
  split
  · exact List.forall_mem_nil _
  · exact List.forall_mem_singleton.2 (.array (List.forall_mem_map.2 h))

lemma tidy_tableMember {t : Table α} (h : ∀ v ∈ t.values, (write v).Tidy) :
    ∀ e ∈ tableMember name t write, e.2.Tidy := by
  rw [tableMember]
  split
  · exact List.forall_mem_nil _
  · exact List.forall_mem_singleton.2 (tidy_ofTable h)

end Members

/-! ## Merged tidy values -/

lemma mem_of_mem_enter {key : String} {value : Json} {es : List (String × Json)}
    {e : String × Json} (h : e ∈ enter key value es) : e = (key, value) ∨ e ∈ es := by
  induction es with
  | nil => exact .inl (List.mem_singleton.1 h)
  | cons d rest ih =>
    obtain ⟨k, v⟩ := d
    rw [enter] at h
    split at h
    · exact (List.mem_cons.1 h).imp_right (List.mem_cons_of_mem _)
    · split at h
      · exact List.mem_cons.1 h
      · rcases List.mem_cons.1 h with rfl | h
        · exact .inr List.mem_cons_self
        · exact (ih h).imp_right (List.mem_cons_of_mem _)

/-- What holds of all members, and of the merges of those of a second object, holds of all merged
members. -/
lemma forall_mem_mergeMembers {P : Json → Prop} {xs ys : List (String × Json)}
    (hxs : ∀ e ∈ xs, P e.2) (hys : ∀ e ∈ ys, P e.2 ∧ ∀ v : Json, P v → P (merge v e.2)) :
    ∀ e ∈ mergeMembers xs ys, P e.2 := by
  induction ys generalizing xs with
  | nil => exact hxs
  | cons y ys ih =>
    obtain ⟨key, value⟩ := y
    obtain ⟨hvalue, hmerge⟩ := hys _ List.mem_cons_self
    rw [mergeMembers_cons]
    refine ih (fun e he => ?_) fun e he => hys e (List.mem_cons_of_mem _ he)
    rw [mergeMember_pair] at he
    cases hlookup : lookup key xs with
    | none =>
      rw [hlookup] at he
      rcases mem_of_mem_enter he with rfl | he
      · exact hvalue
      · exact hxs e he
    | some w =>
      rw [hlookup] at he
      rcases mem_of_mem_enter he with rfl | he
      · exact hmerge w (hxs _ (mem_of_lookup_eq_some hlookup))
      · exact hxs e he

/-- **Merging keeps values tidy.** -/
theorem Tidy.merge {v w : Json} (hv : v.Tidy) (hw : w.Tidy) : (merge v w).Tidy := by
  induction hw generalizing v with
  | null => cases hv <;> constructor
  | bool b => cases hv <;> constructor
  | number n => cases hv <;> constructor
  | string s => cases hv <;> constructor
  | @array ys hys _ =>
    cases hv with
    | array hxs =>
      rw [merge_array]
      exact .array fun x hx => (mem_addNewBy hx).elim (hxs x) (hys x)
    | _ => exact .array hys
  | @members fs hincreasing hfs ih =>
    cases hv with
    | members hincreasing' hes =>
      rw [merge_members]
      exact .members (increasing_mergeMembers hincreasing')
        (forall_mem_mergeMembers hes fun e he => ⟨hfs e he, fun v hv => ih e he hv⟩)
    | _ => exact .members hincreasing hfs

end Json

/-! ## Trees -/

namespace Tree

/-- A tidy value comes out of its tree. -/
theorem toJson?_ofJson {v : Json} (h : v.Tidy) : (ofJson v).toJson? = some v := by
  induction h with
  | null => rfl
  | bool b => rfl
  | number n => rfl
  | string s => rfl
  | @array xs _ ih =>
    have hitems : itemsJson? (ofItems xs) = some xs := by
      clear * - ih
      induction xs with
      | nil => rw [ofItems, itemsJson?]
      | cons x xs ihxs =>
        rw [ofItems, itemsJson?, ih x List.mem_cons_self,
          ihxs fun y hy => ih y (List.mem_cons_of_mem _ hy)]
        rfl
    rw [ofJson, toJson?, hitems]
    rfl
  | @members es hincreasing _ ih =>
    have hentries : entriesJson? (ofMembers es) = some es := by
      clear * - ih
      induction es with
      | nil => rw [ofMembers, entriesJson?]
      | cons e es ihes =>
        obtain ⟨k, v⟩ := e
        rw [ofMembers, ofMember, entriesJson?, entryJson?, ih (k, v) List.mem_cons_self,
          ihes fun f hf => ih f (List.mem_cons_of_mem _ hf)]
        rfl
    rw [ofJson, toJson?, hentries, Option.map_some, Json.object_eq,
      Json.entered_of_increasing hincreasing]

mutual

/-- What comes out of a tree is tidy. -/
theorem tidy_of_toJson? : ∀ {t : Tree} {v : Json}, toJson? t = some v → v.Tidy
  | .leaf l, v, h => by
    rw [toJson?] at h
    cases hvalue : l.value <;> rw [hvalue] at h <;> cases h <;> constructor
  | .list xs _, v, h => by
    rw [toJson?] at h
    obtain ⟨vs, hvs, rfl⟩ := Option.map_eq_some_iff.1 h
    exact .array (tidy_of_itemsJson? hvs)
  | .record es, v, h => by
    rw [toJson?] at h
    obtain ⟨ms, hms, rfl⟩ := Option.map_eq_some_iff.1 h
    exact Json.tidy_object (tidy_of_entriesJson? hms)
  | .marked _, v, h => by simp [toJson?] at h

theorem tidy_of_itemsJson? : ∀ {xs : List Tree} {vs : List Json}, itemsJson? xs = some vs →
    ∀ v ∈ vs, v.Tidy
  | [], vs, h => by
    rw [itemsJson?] at h
    obtain rfl := Option.some.inj h
    exact List.forall_mem_nil _
  | x :: xs, vs, h => by
    simp only [itemsJson?, Option.bind_eq_bind, Option.bind_eq_some_iff, Option.pure_def,
      Option.some.injEq] at h
    obtain ⟨v, hv, rest, hrest, rfl⟩ := h
    exact List.forall_mem_cons.2 ⟨tidy_of_toJson? hv, tidy_of_itemsJson? hrest⟩

theorem tidy_of_entriesJson? : ∀ {es : List (Leaf × Tree)} {ms : List (String × Json)},
    entriesJson? es = some ms → ∀ m ∈ ms, m.2.Tidy
  | [], ms, h => by
    rw [entriesJson?] at h
    obtain rfl := Option.some.inj h
    exact List.forall_mem_nil _
  | e :: es, ms, h => by
    simp only [entriesJson?, Option.bind_eq_bind, Option.bind_eq_some_iff, Option.pure_def,
      Option.some.injEq] at h
    obtain ⟨m, hm, rest, hrest, rfl⟩ := h
    exact List.forall_mem_cons.2 ⟨tidy_of_entryJson? hm, tidy_of_entriesJson? hrest⟩

theorem tidy_of_entryJson? : ∀ {e : Leaf × Tree} {m : String × Json}, entryJson? e = some m →
    m.2.Tidy
  | (k, t), m, h => by
    simp only [entryJson?, Option.bind_eq_bind, Option.bind_eq_some_iff, Option.pure_def,
      Option.some.injEq] at h
    obtain ⟨key, -, v, hv, rfl⟩ := h
    exact tidy_of_toJson? hv

end

end Tree

end ApiLowering
