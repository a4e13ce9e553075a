import ApiLowering.Document.Schema.Reader
import ApiLowering.Document.Schema.Writer
import ApiLowering.Proofs.Json.Trees
import Mathlib.Tactic.Simps.Basic

/-!
# Codecs

A codec says how one kind of thing is read and written, and what comes back when a thing that was
written is read: the thing with its tables in order, unless something in it is taken for a
reference. This law is carried by the codec, so that the codec of a list or a table of things has it
from that of the things.

## Main definitions

* `Codec` — reading and writing one kind of thing, with its laws.
* `Codec.text`, `Codec.bool`, `Codec.number`, `Codec.nat`, `Codec.choice`, `Codec.value` — scalars
  and free-form values.
* `Codec.list`, `Codec.table` — collections of one kind of thing.
-/

namespace ApiLowering

/-- How one kind of thing is read and written, and what comes back. -/
structure Codec (α : Type) where
  /-- Reads a thing. -/
  read : Tree → Option α
  /-- Writes a thing. -/
  write : α → Json
  /-- The thing with its tables in order: so it comes back. -/
  inOrder : α → α
  /-- A tidy thing is such as readers return it, and in a straight one nothing is taken for a
  reference that is none. -/
  Sound : Soundness → α → Prop
  /-- A tidy thing comes back exactly if it is straight. -/
  reads_iff {x : α} : Sound .tidy x →
    (read (.ofJson (write x)) = some (inOrder x) ↔ Sound .straight x)
  /-- What is read from a sound tree is sound. -/
  sound_of_read {k : Soundness} {t : Tree} {x : α} : t.Sound k → read t = some x → Sound k x
  inOrder_inOrder (x : α) : inOrder (inOrder x) = inOrder x
  /-- The order of tables does not matter for what is taken for a reference. -/
  straight_inOrder {x : α} : Sound .straight (inOrder x) ↔ Sound .straight x
  tidy_write {x : α} : Sound .tidy x → (write x).Tidy
  /-- Null is written for nothing else. -/
  isNull_of_write {k : Soundness} {t : Tree} {x : α} : t.Sound k → read t = some x →
    write x = .null → t.isNull? = some true

namespace Codec

variable {α : Type}

/-! ## Scalars -/

/-- The codec of a kind of things without parts, from a way to read them back. -/
def scalar (read : Tree → Option α) (write : α → Json)
    (reads : ∀ x, read (.ofJson (write x)) = some x) (tidy : ∀ x, (write x).Tidy)
    (hnull : ∀ x, write x ≠ .null) : Codec α where
  read := read
  write := write
  inOrder x := x
  Sound _ _ := True
  reads_iff _ := iff_of_true (reads _) trivial
  sound_of_read _ _ := trivial
  inOrder_inOrder _ := rfl
  straight_inOrder := .rfl
  tidy_write _ := tidy _
  isNull_of_write _ _ h := absurd h (hnull _)

/-- Texts. -/
@[simps! -fullyApplied read write inOrder]
def text : Codec String := scalar Tree.text? .string (fun _ => rfl) .string fun _ => nofun

/-- Booleans. -/
@[simps! -fullyApplied read write inOrder]
def bool : Codec Bool := scalar Tree.bool? .bool (fun _ => rfl) .bool fun _ => nofun

/-- Numbers. -/
@[simps! -fullyApplied read write inOrder]
def number : Codec Number := scalar Tree.number? .number (fun _ => rfl) .number fun _ => nofun

/-- Natural numbers. -/
@[simps! -fullyApplied read write inOrder]
def nat : Codec Nat := scalar Tree.nat? .ofNat (fun _ => rfl) (fun _ => .number _) fun _ => nofun

/-- Choices among named values. -/
@[simps! -fullyApplied read write inOrder]
def choice (ofText? : String → Option α) (values : List α) (name : α → String)
    (h : ∀ x, ofText? (name x) = some x) : Codec α :=
  scalar (readChoice? ofText? values) (fun x => .string (name x)) h (fun _ => .string _)
    fun _ => nofun

/-- Free-form values. -/
@[simps! -fullyApplied read write inOrder]
def value : Codec Json where
  read := Tree.toJson?
  write := id
  inOrder v := v
  Sound k v := k = .tidy → v.Tidy
  reads_iff h := iff_of_true (Tree.toJson?_ofJson (h rfl)) nofun
  sound_of_read _ h _ := Tree.tidy_of_toJson? h
  inOrder_inOrder _ := rfl
  straight_inOrder := .rfl
  tidy_write h := h rfl
  isNull_of_write {_ t v} ht h hv := by
    subst hv
    rw [ht.isNull?_eq_some, h]
    rfl

@[simp] lemma sound_text {k : Soundness} {x : String} : text.Sound k x := trivial

@[simp] lemma sound_bool {k : Soundness} {x : Bool} : bool.Sound k x := trivial

@[simp] lemma sound_number {k : Soundness} {x : Number} : number.Sound k x := trivial

@[simp] lemma sound_nat {k : Soundness} {x : Nat} : nat.Sound k x := trivial

@[simp] lemma sound_choice {k : Soundness} {ofText? : String → Option α} {values : List α}
    {name : α → String} {h} {x : α} : (choice ofText? values name h).Sound k x := trivial

@[simp] lemma sound_value {k : Soundness} {v : Json} : value.Sound k v ↔ (k = .tidy → v.Tidy) :=
  .rfl

end Codec

/-! ## Reading collections -/

namespace Tree

variable {α β : Type} {read : Tree → Option α} {k : Soundness} {t : Tree}

/-- A list is read from an array item by item. -/
lemma listOf?_ofJson_iff {write : β → Json} {xs : List β} {g : β → α} :
    listOf? read (.ofJson (.array (xs.map write))) = some (xs.map g) ↔
      ∀ x ∈ xs, read (.ofJson (write x)) = some (g x) := by
  rw [listOf?, ofJson, items?, Option.bind_some, ofItems_eq_map, List.map_map, List.mapM_map,
    mapM_eq_some_map_iff]
  rfl

/-- What is in a list was read from a part of the tree. -/
lemma exists_of_listOf? {xs : List α} (ht : t.Sound k) (h : listOf? read t = some xs) {x : α}
    (hx : x ∈ xs) : ∃ u : Tree, u.Sound k ∧ read u = some x := by
  obtain ⟨ts, hts, hxs⟩ := Option.bind_eq_some_iff.1 h
  obtain ⟨positional, rfl⟩ := ht.exists_list hts
  obtain ⟨u, hu, hux⟩ := exists_mem_right_of_forall₂ (forall₂_of_mapM_eq_some hxs) hx
  cases ht with
  | list hparts => exact ⟨u, hparts u hu, hux⟩

/-- A table is read from the members of an object one by one. -/
lemma table?_ofJson_members {es : List (String × Json)} (h : (es.map Prod.fst).Nodup) :
    table? read (.ofJson (.members es)) =
      (es.mapM fun e => (read (.ofJson e.2)).map (e.1, ·)).map Table.mk := by
  have hstep : (fun e : Leaf × Tree => do return (← e.1.text?, ← read e.2)) ∘
      (fun e : String × Json => (Leaf.ofText e.1, Tree.ofJson e.2)) =
        fun e => (read (.ofJson e.2)).map (e.1, ·) := by
    funext e
    change (read (.ofJson e.2)).bind _ = _
    cases read (.ofJson e.2) <;> rfl
  rw [ofJson, table?, entries?, Option.bind_eq_bind, Option.bind_some, ofMembers_eq_map,
    List.mapM_map, hstep]
  cases hpairs : es.mapM fun e => (read (.ofJson e.2)).map (e.1, ·) with
  | none => rfl
  | some pairs =>
    have hkeys : pairs.map Prod.fst = es.map Prod.fst := by
      have hread := forall₂_of_mapM_eq_some hpairs
      clear * - hread
      induction hread with
      | nil => rfl
      | cons hef _ ih =>
        obtain ⟨v, -, rfl⟩ := Option.map_eq_some_iff.1 hef
        rw [List.map_cons, List.map_cons, ih]
    exact congrArg some (Table.ofList_of_nodup (hkeys ▸ h))

/-- A table is read back from an object, with its keys in order. -/
lemma table?_ofTable_iff {write : β → Json} {g : β → α} {x : Table β} (h : x.keys.Nodup) :
    table? read (.ofJson (Json.ofTable x write)) = some (x.map g).sortByKey ↔
      ∀ v ∈ x.values, read (.ofJson (write v)) = some (g v) := by
  have hperm := x.entries_sortByKey_perm
  have hnodup : ((x.sortByKey.map write).entries.map Prod.fst).Nodup := by
    rw [Table.map, List.map_map]
    exact (hperm.map Prod.fst).nodup_iff.2 h
  have hvalues : (∀ v ∈ x.values, read (.ofJson (write v)) = some (g v)) ↔
      ∀ e ∈ x.sortByKey.entries, read (.ofJson (write e.2)) = some (g e.2) := by
    simp only [Table.values, List.forall_mem_map, hperm.mem_iff]
  rw [hvalues, Json.ofTable_eq write h, table?_ofJson_members hnodup, Table.sortByKey_map,
    Option.map_eq_some_iff]
  simp only [Table.map, Table.mk.injEq, exists_eq_right, List.mapM_map, mapM_eq_some_map_iff]
  refine forall₂_congr fun e he => ?_
  rw [Function.comp_apply]
  cases read (.ofJson (write e.2)) <;> simp

/-- What is in a table was read from a part of the tree. -/
lemma exists_of_table? {x : Table α} (ht : t.Sound k) (h : table? read t = some x) {v : α}
    (hv : v ∈ x.values) : ∃ u : Tree, u.Sound k ∧ read u = some v := by
  simp only [table?, Option.bind_eq_bind, Option.bind_eq_some_iff] at h
  obtain ⟨es, hes, pairs, hpairs, h⟩ := h
  obtain rfl := Option.some.inj h
  obtain rfl := ht.eq_record hes
  obtain ⟨e, he, rfl⟩ := List.mem_map.1 hv
  obtain ⟨f, hf, hstep⟩ := exists_mem_right_of_forall₂ (forall₂_of_mapM_eq_some hpairs)
    (Table.mem_of_mem_ofList he)
  simp only [Option.bind_eq_some_iff, Option.pure_def, Option.some.injEq] at hstep
  obtain ⟨key, -, w, hw, rfl⟩ := hstep
  cases ht with
  | record _ hparts => exact ⟨f.2, hparts f hf, hw⟩

lemma nodup_keys_of_table? {x : Table α} (h : table? read t = some x) : x.keys.Nodup := by
  simp only [table?, Option.bind_eq_bind, Option.bind_eq_some_iff] at h
  obtain ⟨es, -, pairs, -, h⟩ := h
  obtain rfl := Option.some.inj h
  exact Table.nodup_keys_ofList pairs

end Tree

namespace Codec

variable {α : Type} (c : Codec α)

/-! ## Collections -/

/-- Lists of one kind of thing. -/
@[simps! -fullyApplied read write inOrder]
def list : Codec (List α) where
  read := Tree.listOf? c.read
  write xs := .array (xs.map c.write)
  inOrder xs := xs.map c.inOrder
  Sound k xs := ∀ x ∈ xs, c.Sound k x
  reads_iff h := Tree.listOf?_ofJson_iff.trans (forall₂_congr fun x hx => c.reads_iff (h x hx))
  sound_of_read ht h x hx := by
    obtain ⟨u, hu, hread⟩ := Tree.exists_of_listOf? ht h hx
    exact c.sound_of_read hu hread
  inOrder_inOrder xs := by
    have hmap : c.inOrder ∘ c.inOrder = c.inOrder := funext c.inOrder_inOrder
    rw [List.map_map, hmap]
  straight_inOrder := List.forall_mem_map.trans (forall₂_congr fun _ _ => c.straight_inOrder)
  tidy_write h := .array (List.forall_mem_map.2 fun x hx => c.tidy_write (h x hx))
  isNull_of_write _ _ := nofun

/-- Tables of one kind of thing. -/
@[simps! -fullyApplied read write inOrder]
def table : Codec (Table α) where
  read := Tree.table? c.read
  write t := Json.ofTable t c.write
  inOrder t := (t.map c.inOrder).sortByKey
  Sound k t := (k = .tidy → t.keys.Nodup) ∧ ∀ v ∈ t.values, c.Sound k v
  reads_iff h := by
    rw [Tree.table?_ofTable_iff (h.1 rfl), and_iff_right nofun]
    exact forall₂_congr fun v hv => c.reads_iff (h.2 v hv)
  sound_of_read ht h := by
    refine ⟨fun _ => Tree.nodup_keys_of_table? h, fun v hv => ?_⟩
    obtain ⟨u, hu, hread⟩ := Tree.exists_of_table? ht h hv
    exact c.sound_of_read hu hread
  inOrder_inOrder := Table.sortByKey_map_sortByKey c.inOrder_inOrder
  straight_inOrder {t} := by
    refine and_congr (iff_of_true nofun nofun) ?_
    simp only [(Table.values_sortByKey_perm _).mem_iff, Table.values_map, List.forall_mem_map,
      c.straight_inOrder]
  tidy_write h := Json.tidy_ofTable fun v hv => c.tidy_write (h.2 v hv)
  isNull_of_write _ _ := nofun

omit c in
@[simp] lemma listOf?_text? : Tree.listOf? Tree.text? = Tree.texts? := rfl

@[simp] lemma sound_list {k : Soundness} {xs : List α} :
    c.list.Sound k xs ↔ ∀ x ∈ xs, c.Sound k x := .rfl

@[simp] lemma sound_table {k : Soundness} {t : Table α} :
    c.table.Sound k t ↔ (k = .tidy → t.keys.Nodup) ∧ ∀ v ∈ t.values, c.Sound k v := .rfl

/-! A table stays sound in another order, with fewer entries, and with other sound values. -/

section Tables

variable {c : Codec α} {k : Soundness} {t : Table α}

lemma Sound.sortByKey (h : c.table.Sound k t) : c.table.Sound k t.sortByKey := by
  refine ⟨fun hk => (t.entries_sortByKey_perm.map Prod.fst).nodup_iff.2 (h.1 hk),
    fun v hv => h.2 v (t.values_sortByKey_perm.mem_iff.1 hv)⟩

lemma Sound.filter (h : c.table.Sound k t) (p : String → α → Bool) :
    c.table.Sound k (t.filter p) := by
  have hsub : (t.filter p).entries.Sublist t.entries := List.filter_sublist
  exact ⟨fun hk => (h.1 hk).sublist (hsub.map Prod.fst),
    fun v hv => h.2 v ((hsub.map Prod.snd).subset hv)⟩

lemma Sound.map {f : α → α} (h : c.table.Sound k t)
    (hf : ∀ v, c.Sound k v → c.Sound k (f v)) : c.table.Sound k (t.map f) := by
  refine ⟨fun hk => (Table.keys_map f t).symm ▸ h.1 hk, ?_⟩
  rw [Table.values_map]
  exact List.forall_mem_map.2 fun v hv => hf v (h.2 v hv)

end Tables

end Codec

end ApiLowering
