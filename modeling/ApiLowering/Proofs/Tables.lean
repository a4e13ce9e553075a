import ApiLowering.Table
import Mathlib.Data.List.Nodup
import Mathlib.Data.String.Basic
import Mathlib.Tactic.Lemma
import Mathlib.Tactic.Tauto

/-!
# Tables entry by entry

## Main results

* `Table.mem_keys_insert`, `Table.nodup_keys_insert` — the keys after an insertion.
* `Table.mem_keys_ofList`, `Table.nodup_keys_ofList` — the keys of the table of a list.
* `Table.mem_of_mem_ofList` — every entry of the table of a list is one of the list.
* `Table.sortByKey_of_sorted` — a table in order stays as it is.
-/

namespace ApiLowering

namespace Table

variable {α β : Type}

/-! ## Lookups -/

lemma lookup_isSome_iff {key : String} {es : List (String × α)} :
    (lookup key es).isSome ↔ key ∈ es.map Prod.fst := by
  induction es with
  | nil => simp [lookup]
  | cons e rest ih =>
    obtain ⟨k, v⟩ := e
    by_cases h : k = key
    · simp [lookup, h]
    · simp [lookup, h, ih, Ne.symm h]

lemma contains_iff {t : Table α} {key : String} : t.contains key = true ↔ key ∈ t.keys :=
  lookup_isSome_iff

lemma mem_of_lookup_eq_some {key : String} {value : α} {es : List (String × α)}
    (h : lookup key es = some value) : (key, value) ∈ es := by
  induction es with
  | nil => simp [lookup] at h
  | cons e rest ih =>
    obtain ⟨k, v⟩ := e
    by_cases hk : k = key
    · simp_all [lookup]
    · simp only [lookup, hk, if_false] at h
      exact List.mem_cons_of_mem _ (ih h)

lemma mem_of_find?_eq_some {t : Table α} {key : String} {value : α}
    (h : t.find? key = some value) : (key, value) ∈ t.entries :=
  mem_of_lookup_eq_some h

lemma lookup_eq_some_of_mem {key : String} {value : α} {es : List (String × α)}
    (hnodup : (es.map Prod.fst).Nodup) (h : (key, value) ∈ es) : lookup key es = some value := by
  induction es with
  | nil => simp at h
  | cons e rest ih =>
    obtain ⟨k, v⟩ := e
    rw [List.map_cons, List.nodup_cons] at hnodup
    rcases List.mem_cons.1 h with heq | hmem
    · obtain ⟨rfl, rfl⟩ := Prod.mk.inj heq
      simp [lookup]
    · have hne : k ≠ key := by
        rintro rfl
        exact hnodup.1 (List.mem_map.2 ⟨(k, value), hmem, rfl⟩)
      rw [lookup, if_neg hne]
      exact ih hnodup.2 hmem

/-- A table with distinct keys answers with what it holds. -/
lemma find?_eq_some_of_mem {t : Table α} {key : String} {value : α} (hnodup : t.keys.Nodup)
    (h : (key, value) ∈ t.entries) : t.find? key = some value :=
  lookup_eq_some_of_mem hnodup h

lemma mem_keys_of_find? {t : Table α} {key : String} {value : α} (h : t.find? key = some value) :
    key ∈ t.keys :=
  List.mem_map_of_mem (mem_of_find?_eq_some h)

/-- Removing a key disturbs no other one. -/
lemma find?_erase_of_ne (t : Table α) {key other : String} (h : other ≠ key) :
    (t.erase key).find? other = t.find? other := by
  obtain ⟨es⟩ := t
  change lookup other (es.filter fun e => e.1 != key) = lookup other es
  induction es with
  | nil => rfl
  | cons e rest ih =>
    obtain ⟨k, v⟩ := e
    by_cases hk : k = key
    · subst hk
      simp [lookup, h.symm, ih]
    · simp [lookup, hk, ih]

lemma mem_values_of_find? {t : Table α} {key : String} {value : α}
    (h : t.find? key = some value) : value ∈ t.values :=
  List.mem_map_of_mem (mem_of_find?_eq_some h)

/-! ## Insertions -/

/-- The keys after an insertion: those before and the new one. -/
lemma mem_keys_insert {t : Table α} {key other : String} {value : α} :
    other ∈ (t.insert key value).keys ↔ other = key ∨ other ∈ t.keys := by
  by_cases h : key ∈ t.keys
  · rw [keys_insert_of_mem t value h]
    constructor
    · exact .inr
    · rintro (rfl | hmem)
      · exact h
      · exact hmem
  · rw [keys_insert_of_not_mem t value h, List.mem_append, List.mem_singleton]
    tauto

/-- An insertion repeats no key. -/
lemma nodup_keys_insert {t : Table α} {key : String} {value : α} (h : t.keys.Nodup) :
    (t.insert key value).keys.Nodup := by
  by_cases hkey : key ∈ t.keys
  · rwa [keys_insert_of_mem t value hkey]
  · rw [keys_insert_of_not_mem t value hkey]
    exact h.append (List.nodup_singleton key) (by simpa using hkey)

lemma size_eq_length_keys (t : Table α) : t.size = t.keys.length :=
  (List.length_map Prod.fst).symm

lemma size_insert_of_mem {t : Table α} {key : String} {value : α} (h : key ∈ t.keys) :
    (t.insert key value).size = t.size := by
  rw [size_eq_length_keys, size_eq_length_keys, keys_insert_of_mem t value h]

lemma size_insert_of_not_mem {t : Table α} {key : String} {value : α} (h : key ∉ t.keys) :
    (t.insert key value).size = t.size + 1 := by
  rw [size_eq_length_keys, size_eq_length_keys, keys_insert_of_not_mem t value h,
    List.length_append]
  rfl

lemma mem_keys_insertNew {t : Table α} {key other : String} {value : α} :
    other ∈ (t.insertNew key value).keys ↔ other = key ∨ other ∈ t.keys := by
  rw [insertNew]
  split
  · rename_i h
    have hkey := contains_iff.1 h
    constructor
    · exact .inr
    · rintro (rfl | hmem)
      · exact hkey
      · exact hmem
  · exact mem_keys_insert

lemma mem_of_mem_put {key : String} {value : α} {es : List (String × α)} {e : String × α}
    (h : e ∈ put key value es) : e = (key, value) ∨ e ∈ es := by
  induction es with
  | nil => simpa [put] using h
  | cons f rest ih =>
    obtain ⟨k, v⟩ := f
    rw [put] at h
    split at h
    · rename_i hk
      subst hk
      rcases List.mem_cons.1 h with rfl | h
      · exact .inl rfl
      · exact .inr (List.mem_cons_of_mem _ h)
    · rcases List.mem_cons.1 h with rfl | h
      · exact .inr (by simp)
      · rcases ih h with h | h
        · exact .inl h
        · exact .inr (List.mem_cons_of_mem _ h)

lemma mem_of_mem_insertNew {t : Table α} {key : String} {value : α} {e : String × α}
    (h : e ∈ (t.insertNew key value).entries) : e = (key, value) ∨ e ∈ t.entries := by
  rw [insertNew] at h
  split at h
  · exact .inr h
  · exact mem_of_mem_put h

lemma mem_values_insert {t : Table α} {key : String} {value v : α}
    (h : v ∈ (t.insert key value).values) : v = value ∨ v ∈ t.values := by
  obtain ⟨e, he, rfl⟩ := List.mem_map.1 h
  rcases mem_of_mem_put he with rfl | he
  · exact .inl rfl
  · exact .inr (List.mem_map_of_mem he)

/-- What differs from all values may be inserted among values that differ. -/
lemma pairwise_values_insert {R : α → α → Prop} (hsymm : ∀ v w, R v w → R w v) {t : Table α}
    {key : String} {value : α} (h : t.values.Pairwise R) (hvalue : ∀ v ∈ t.values, R v value) :
    (t.insert key value).values.Pairwise R := by
  obtain ⟨es⟩ := t
  change (es.map Prod.snd).Pairwise R at h
  change ∀ v ∈ es.map Prod.snd, R v value at hvalue
  change ((put key value es).map Prod.snd).Pairwise R
  induction es with
  | nil => exact List.pairwise_singleton _ _
  | cons e rest ih =>
    obtain ⟨k, v⟩ := e
    rw [List.map_cons, List.pairwise_cons] at h
    rw [List.map_cons, List.forall_mem_cons] at hvalue
    rw [put]
    split
    · exact List.pairwise_cons.2 ⟨fun w hw => hsymm _ _ (hvalue.2 w hw), h.2⟩
    · refine List.pairwise_cons.2 ⟨fun w hw => ?_, ih h.2 hvalue.2⟩
      obtain ⟨f, hf, rfl⟩ := List.mem_map.1 hw
      rcases mem_of_mem_put hf with rfl | hf
      · exact hvalue.1
      · exact h.1 _ (List.mem_map_of_mem hf)

lemma mem_keys_insertAll {t : Table α} {es : List (String × α)} {key : String} :
    key ∈ (t.insertAll es).keys ↔ key ∈ t.keys ∨ key ∈ es.map Prod.fst := by
  induction es generalizing t with
  | nil => simp [insertAll]
  | cons e rest ih =>
    have hstep : t.insertAll (e :: rest) = (t.insert e.1 e.2).insertAll rest := rfl
    rw [hstep, ih, mem_keys_insert, List.map_cons, List.mem_cons]
    tauto

lemma nodup_keys_insertAll {t : Table α} {es : List (String × α)} (h : t.keys.Nodup) :
    (t.insertAll es).keys.Nodup := by
  induction es generalizing t with
  | nil => exact h
  | cons e rest ih => exact ih (nodup_keys_insert h)

lemma mem_of_mem_insertAll {t : Table α} {es : List (String × α)} {e : String × α}
    (h : e ∈ (t.insertAll es).entries) : e ∈ t.entries ∨ e ∈ es := by
  induction es generalizing t with
  | nil => exact .inl h
  | cons f rest ih =>
    rcases ih h with h | h
    · rcases mem_of_mem_put h with rfl | h
      · exact .inr (by simp)
      · exact .inl h
    · exact .inr (List.mem_cons_of_mem _ h)

lemma put_of_not_mem {key : String} {value : α} {es : List (String × α)}
    (h : key ∉ es.map Prod.fst) : put key value es = es ++ [(key, value)] := by
  induction es with
  | nil => rfl
  | cons e rest ih =>
    obtain ⟨k, v⟩ := e
    simp only [List.map_cons, List.mem_cons, not_or] at h
    rw [put, if_neg (Ne.symm h.1), ih h.2, List.cons_append]

/-- New entries follow those that were there. -/
lemma entries_insertAll {t : Table α} {es : List (String × α)} (hnodup : (es.map Prod.fst).Nodup)
    (hnew : ∀ key ∈ es.map Prod.fst, key ∉ t.keys) :
    (t.insertAll es).entries = t.entries ++ es := by
  induction es generalizing t with
  | nil => exact (List.append_nil _).symm
  | cons e rest ih =>
    rw [List.map_cons, List.nodup_cons] at hnodup
    rw [List.map_cons, List.forall_mem_cons] at hnew
    have hstep : t.insertAll (e :: rest) = (t.insert e.1 e.2).insertAll rest := rfl
    have hentries : (t.insert e.1 e.2).entries = t.entries ++ [e] := put_of_not_mem hnew.1
    rw [hstep, ih hnodup.2 fun key hkey => ?_, hentries, List.append_assoc, List.singleton_append]
    rw [mem_keys_insert]
    rintro (rfl | h)
    · exact hnodup.1 hkey
    · exact hnew.2 key hkey h

/-- Under a key there is the new value if there is one. -/
lemma find?_insertAll {t : Table α} {es : List (String × α)} (h : (es.map Prod.fst).Nodup)
    (key : String) : (t.insertAll es).find? key = (lookup key es).or (t.find? key) := by
  induction es generalizing t with
  | nil => rfl
  | cons e rest ih =>
    rw [List.map_cons, List.nodup_cons] at h
    have hstep : t.insertAll (e :: rest) = (t.insert e.1 e.2).insertAll rest := rfl
    rw [hstep, ih h.2, lookup]
    by_cases hkey : e.1 = key
    · have hnone : lookup key rest = none :=
        Option.not_isSome_iff_eq_none.1 fun hsome => h.1 (hkey ▸ lookup_isSome_iff.1 hsome)
      rw [if_pos hkey, hnone, ← hkey, find?_insert_self]
      rfl
    · rw [if_neg hkey, find?_insert_of_ne _ _ (Ne.symm hkey)]

/-! ## Tables of lists -/

/-- The keys of the table of a list are those of the list. -/
lemma mem_keys_ofList {es : List (String × α)} {key : String} :
    key ∈ (ofList es).keys ↔ key ∈ es.map Prod.fst := by
  rw [ofList, mem_keys_insertAll]
  simp [keys, empty]

/-- The table of a list repeats no key. -/
lemma nodup_keys_ofList (es : List (String × α)) : (ofList es).keys.Nodup :=
  nodup_keys_insertAll List.nodup_nil

/-- Every entry of the table of a list is one of the list. -/
lemma mem_of_mem_ofList {es : List (String × α)} {e : String × α}
    (h : e ∈ (ofList es).entries) : e ∈ es := by
  rcases mem_of_mem_insertAll h with h | h
  · simp [empty] at h
  · exact h

/-- Under a key there is the last value that the list has for it. -/
lemma find?_ofList (es : List (String × α)) (key : String) :
    (ofList es).find? key = (es.reverse.find? (·.1 == key)).map Prod.snd := by
  obtain ⟨rev, rfl⟩ : ∃ rev, es = List.reverse rev := ⟨es.reverse, es.reverse_reverse.symm⟩
  rw [List.reverse_reverse]
  induction rev with
  | nil => rfl
  | cons e rev ih =>
    have hlast : ofList (e :: rev).reverse = (ofList rev.reverse).insert e.1 e.2 := by
      rw [List.reverse_cons]
      exact List.foldl_append
    rw [hlast, List.find?_cons]
    by_cases hkey : e.1 = key
    · rw [beq_iff_eq.2 hkey, ← hkey, find?_insert_self]
      rfl
    · rw [beq_eq_false_iff_ne.2 hkey, find?_insert_of_ne _ _ (Ne.symm hkey), ih]

/-- A list that repeats no key is its own table. -/
lemma ofList_of_nodup {es : List (String × α)} (h : (es.map Prod.fst).Nodup) : ofList es = ⟨es⟩ :=
  congrArg mk (entries_insertAll h fun _ _ => List.not_mem_nil)

/-! ## Maps -/

lemma keys_map (f : α → β) (t : Table α) : (t.map f).keys = t.keys := by
  simp [keys, map]

lemma lookup_map (f : α → β) (key : String) (es : List (String × α)) :
    lookup key (es.map fun e => (e.1, f e.2)) = (lookup key es).map f := by
  induction es with
  | nil => rfl
  | cons e rest ih =>
    obtain ⟨k, v⟩ := e
    by_cases h : k = key
    · simp [lookup, h]
    · simp [lookup, h, ih]

lemma find?_map (f : α → β) (t : Table α) (key : String) :
    (t.map f).find? key = (t.find? key).map f :=
  lookup_map f key t.entries

lemma map_map {γ : Type} (g : β → γ) (f : α → β) (t : Table α) :
    (t.map f).map g = t.map (g ∘ f) := by
  simp [map]

lemma map_id' (t : Table α) : (t.map fun v => v) = t := by
  simp [map]

/-- Two functions give one table exactly if they agree on its values. -/
lemma map_inj_left {f g : α → β} {t : Table α} :
    t.map f = t.map g ↔ ∀ v ∈ t.values, f v = g v := by
  obtain ⟨es⟩ := t
  simp only [map, values, mk.injEq, List.map_inj_left, List.forall_mem_map, Prod.mk.injEq,
    true_and]

lemma values_map (f : α → β) (t : Table α) : (t.map f).values = t.values.map f := by
  simp [values, map]

lemma isEmpty_map (f : α → β) (t : Table α) : (t.map f).isEmpty = t.isEmpty := by
  simp [isEmpty, map]


/-! ## Tables in order -/

/-- The keys of a table increase. -/
def Sorted (t : Table α) : Prop := t.entries.Pairwise fun a b => a.1 ≤ b.1

lemma sorted_sortByKey (t : Table α) : t.sortByKey.Sorted := by
  have h : t.sortByKey.entries.Pairwise fun a b => decide (a.1 ≤ b.1) = true :=
    pairwise_sortBy
      (fun a b c hab hbc => by
        simpa using String.le_trans (by simpa using hab) (by simpa using hbc))
      (fun a b => by simpa using String.le_total a.1 b.1) t.entries
  exact h.imp fun hab => by simpa using hab

lemma entries_sortByKey_perm (t : Table α) : t.sortByKey.entries.Perm t.entries := sortBy_perm _ _

lemma values_sortByKey_perm (t : Table α) : t.sortByKey.values.Perm t.values :=
  t.entries_sortByKey_perm.map Prod.snd

/-- The keys of a table in order increase strictly if none is there twice. -/
lemma pairwise_keys_sortByKey {t : Table α} (h : t.keys.Nodup) :
    t.sortByKey.keys.Pairwise (· < ·) := by
  have hnodup : t.sortByKey.keys.Nodup := (t.entries_sortByKey_perm.map Prod.fst).nodup_iff.2 h
  have hsorted : t.sortByKey.keys.Pairwise (· ≤ ·) := List.pairwise_map.2 t.sorted_sortByKey
  exact (hsorted.and hnodup).imp fun hab => lt_of_le_of_ne hab.1 hab.2

/-- A table in order stays as it is. -/
lemma sortByKey_of_sorted {t : Table α} (h : t.Sorted) : t.sortByKey = t := by
  rw [sortByKey, sortBy_of_pairwise]
  exact h.imp fun hab => by simpa using hab

@[simp] lemma sortByKey_sortByKey (t : Table α) : t.sortByKey.sortByKey = t.sortByKey :=
  sortByKey_of_sorted t.sorted_sortByKey

lemma isEmpty_sortByKey (t : Table α) : t.sortByKey.isEmpty = t.isEmpty := by
  rw [isEmpty, isEmpty, sortByKey, Bool.eq_iff_iff, List.isEmpty_iff_length_eq_zero,
    (sortBy_perm _ _).length_eq, List.isEmpty_iff_length_eq_zero]

lemma Sorted.map {t : Table α} (h : t.Sorted) (f : α → β) : (t.map f).Sorted := by
  rw [Sorted, Table.map, List.pairwise_map]
  exact h

lemma filter_eq_self {t : Table α} {p : String → α → Bool}
    (h : ∀ e ∈ t.entries, p e.1 e.2 = true) : t.filter p = t := by
  rw [filter, List.filter_eq_self.2 h]

lemma Sorted.filter {t : Table α} (h : t.Sorted) (p : String → α → Bool) :
    (t.filter p).Sorted := by
  rw [Sorted, Table.filter]
  exact List.Pairwise.filter _ h

lemma sortByKey_map (g : α → β) (t : Table α) : (t.map g).sortByKey = t.sortByKey.map g := by
  have hinsert (e : String × α) (es : List (String × α)) :
      insertBy (fun a b => decide (a.1 ≤ b.1)) (e.1, g e.2) (es.map fun e => (e.1, g e.2)) =
        (insertBy (fun a b => decide (a.1 ≤ b.1)) e es).map fun e => (e.1, g e.2) := by
    induction es with
    | nil => rfl
    | cons e' es ih =>
      simp only [List.map_cons, insertBy]
      split
      · rfl
      · rw [ih, List.map_cons]
  have hsort (es : List (String × α)) :
      sortBy (fun a b => decide (a.1 ≤ b.1)) (es.map fun e => (e.1, g e.2)) =
        (sortBy (fun a b => decide (a.1 ≤ b.1)) es).map fun e => (e.1, g e.2) := by
    induction es with
    | nil => rfl
    | cons e es ih => rw [List.map_cons, sortBy, ih, hinsert, sortBy]
  exact congrArg mk (hsort t.entries)

lemma lookup_insertBy_self (key : String) (value : α) (es : List (String × α)) :
    lookup key (insertBy (fun a b => decide (a.1 ≤ b.1)) (key, value) es) = some value := by
  induction es with
  | nil => simp [insertBy, lookup]
  | cons e es ih =>
    rw [insertBy]
    split
    · simp [lookup]
    · rename_i hafter
      -- the entries that stay in front have lower keys
      have hne : e.1 ≠ key := by
        rintro rfl
        exact hafter (by simp)
      rw [lookup, if_neg hne, ih]

lemma lookup_insertBy_of_ne {key : String} {e : String × α} (hne : e.1 ≠ key)
    (es : List (String × α)) :
    lookup key (insertBy (fun a b => decide (a.1 ≤ b.1)) e es) = lookup key es := by
  induction es with
  | nil => simp [insertBy, lookup, hne]
  | cons e' es ih =>
    rw [insertBy]
    split
    · rw [lookup, if_neg hne]
    · rw [lookup, lookup, ih]

/-- A table in order answers as before, also if a key is there twice. -/
lemma find?_sortByKey (t : Table α) (key : String) : t.sortByKey.find? key = t.find? key := by
  obtain ⟨es⟩ := t
  change lookup key (sortBy _ es) = lookup key es
  induction es with
  | nil => rfl
  | cons e es ih =>
    obtain ⟨k, v⟩ := e
    rw [sortBy, lookup]
    split
    · rename_i hk
      rw [← hk, lookup_insertBy_self]
    · rename_i hk
      rw [lookup_insertBy_of_ne hk, ih]

/-- A table put in order with all of its values is in order. -/
@[simp] lemma sortByKey_map_sortByKey {g : α → α} (hg : ∀ v, g (g v) = g v) (t : Table α) :
    ((t.map g).sortByKey.map g).sortByKey = (t.map g).sortByKey := by
  have hmap : g ∘ g = g := funext hg
  rw [← sortByKey_map, map_map, hmap, sortByKey_sortByKey]

lemma filter_map {g : α → α} {p : String → α → Bool} (hp : ∀ key v, p key (g v) = p key v)
    (t : Table α) : (t.map g).filter p = (t.filter p).map g := by
  refine congrArg mk ?_
  rw [Table.map, List.filter_map]
  refine congrArg (List.map _) (List.filter_congr fun e _ => ?_)
  exact hp e.1 e.2

end Table

end ApiLowering
