import ApiLowering.Json.Basic
import ApiLowering.Proofs.Tables
import Mathlib.Data.String.Basic
import Mathlib.Data.List.Pairwise
import Mathlib.Tactic.Lemma

/-!
# Values up to equality

Two values are equal if they differ in the signs of zeros alone. Dropping these signs makes equality
of values the identity of what is left, so that laws of equality need no induction of their own.

An object keeps its members by strictly increasing key and is determined by what it answers when it
is asked for a key.

## Main definitions

* `Json.essence` — a value without the signs of its zeros.
* `Json.Increasing` — the keys of some members increase.
* `Json.itemsAt`, `Json.keysAt` — the items of an array, the keys of an object under a key.
* `Json.ArrayAt`, `Json.ObjectAt` — what is under a key, if there is anything.

## Main results

* `Json.same_iff` — values are equal exactly if they have one essence.
* `Json.lookup_foldl_enter` — members answer with the value that was entered last.
* `Json.eq_of_lookup_eq` — members with increasing keys are determined by their answers.
-/

namespace ApiLowering

/-! ## Numbers -/

/-- The number without the sign of a zero. -/
def Binary64.essence (x : Binary64) : Binary64 := if x.significand = 0 then .zero false else x

/-- The number without the sign of a zero. -/
def Number.essence : Number → Number
  | .whole n => .whole n
  | .double x => .double x.essence

lemma Binary64.sameValue_iff (x y : Binary64) :
    x.sameValue y = true ↔ x.essence = y.essence := by
  simp only [sameValue, essence, Bool.or_eq_true, Bool.and_eq_true, beq_iff_eq]
  constructor
  · rintro (rfl | ⟨hx, hy⟩)
    · rfl
    · rw [if_pos hx, if_pos hy]
  · intro h
    split at h <;> rename_i hx
    · split at h <;> rename_i hy
      · exact .inr ⟨hx, hy⟩
      · exact absurd (by rw [← h]; rfl) hy
    · split at h <;> rename_i hy
      · exact absurd (by rw [h]; rfl) hx
      · exact .inl h

lemma Number.same_iff (m n : Number) : m.same n = true ↔ m.essence = n.essence := by
  cases m <;> cases n <;> simp [same, essence, Binary64.sameValue_iff]

namespace Json

/-! ## Values -/

mutual

/-- The value without the signs of its zeros. -/
def essence : Json → Json
  | .null => .null
  | .bool b => .bool b
  | .number n => .number n.essence
  | .string s => .string s
  | .array xs => .array (essenceItems xs)
  | .members es => .members (essenceMembers es)

/-- The items without the signs of their zeros. -/
def essenceItems : List Json → List Json
  | [] => []
  | x :: xs => essence x :: essenceItems xs

/-- The members without the signs of their zeros. -/
def essenceMembers : List (String × Json) → List (String × Json)
  | [] => []
  | e :: es => essenceMember e :: essenceMembers es

/-- One member without the signs of its zeros. -/
def essenceMember : String × Json → String × Json
  | (k, v) => (k, essence v)

end

mutual

/-- Values are equal exactly if they have one essence. -/
theorem same_iff : ∀ v w : Json, same v w = true ↔ essence v = essence w
  | .null, w => by cases w <;> simp [same, essence]
  | .bool _, w => by cases w <;> simp [same, essence]
  | .number m, w => by cases w <;> simp [same, essence, Number.same_iff]
  | .string _, w => by cases w <;> simp [same, essence]
  | .array xs, w => by cases w <;> simp [same, essence, sameItems_iff xs]
  | .members es, w => by cases w <;> simp [same, essence, sameMembers_iff es]

theorem sameItems_iff : ∀ xs ys : List Json,
    sameItems xs ys = true ↔ essenceItems xs = essenceItems ys
  | [], ys => by cases ys <;> simp [sameItems, essenceItems]
  | x :: xs, ys => by cases ys <;> simp [sameItems, essenceItems, same_iff x, sameItems_iff xs]

theorem sameMembers_iff : ∀ es fs : List (String × Json),
    sameMembers es fs = true ↔ essenceMembers es = essenceMembers fs
  | [], fs => by cases fs <;> simp [sameMembers, essenceMembers]
  | e :: es, fs => by
    cases fs <;> simp [sameMembers, essenceMembers, sameMember_iff e, sameMembers_iff es]

theorem sameMember_iff : ∀ e f : String × Json,
    sameMember e f = true ↔ essenceMember e = essenceMember f
  | (k, v), (l, w) => by simp [sameMember, essenceMember, same_iff v]

end

lemma essenceItems_eq_map (xs : List Json) : essenceItems xs = xs.map essence := by
  induction xs with
  | nil => simp [essenceItems]
  | cons x xs ih => simp [essenceItems, ih]

lemma essenceMembers_eq_map (es : List (String × Json)) :
    essenceMembers es = es.map fun e => (e.1, essence e.2) := by
  induction es with
  | nil => simp [essenceMembers]
  | cons e es ih =>
    obtain ⟨k, v⟩ := e
    simp [essenceMembers, essenceMember, ih]

/-! ## Members -/

/-- The keys of some members increase. -/
def Increasing (es : List (String × Json)) : Prop := es.Pairwise fun e f => e.1 < f.1

lemma mem_keys_enter {key other : String} {value : Json} {es : List (String × Json)} :
    other ∈ (enter key value es).map Prod.fst ↔ other = key ∨ other ∈ es.map Prod.fst := by
  induction es with
  | nil => simp [enter]
  | cons e rest ih =>
    obtain ⟨k, v⟩ := e
    simp only [enter]
    split
    · rename_i h
      subst h
      simp
    · split
      · simp
      · simp only [List.map_cons, List.mem_cons, ih]
        tauto

/-- Entering a member keeps the keys in order. -/
lemma increasing_enter {key : String} {value : Json} {es : List (String × Json)}
    (h : Increasing es) : Increasing (enter key value es) := by
  induction es with
  | nil => simp [enter, Increasing]
  | cons e rest ih =>
    obtain ⟨k, v⟩ := e
    obtain ⟨hk, hrest⟩ := List.pairwise_cons.1 h
    simp only [enter]
    split
    · rename_i heq
      subst heq
      exact List.pairwise_cons.2 ⟨hk, hrest⟩
    · split
      · rename_i hlt
        refine List.pairwise_cons.2 ⟨fun f hf => ?_, h⟩
        rcases List.mem_cons.1 hf with rfl | hf
        · exact hlt
        · exact hlt.trans (hk f hf)
      · rename_i hne hlt
        refine List.pairwise_cons.2 ⟨fun f hf => ?_, ih hrest⟩
        rcases mem_keys_enter.1 (List.mem_map_of_mem hf) with heq | hmem
        · rw [heq]
          exact lt_of_le_of_ne (not_lt.1 hlt) (Ne.symm hne)
        · obtain ⟨g, hg, hgf⟩ := List.mem_map.1 hmem
          rw [← hgf]
          exact hk g hg

/-- The members of an object are in order. -/
lemma increasing_foldl_enter {es acc : List (String × Json)} (h : Increasing acc) :
    Increasing (es.foldl (fun acc e => enter e.1 e.2 acc) acc) := by
  induction es generalizing acc with
  | nil => exact h
  | cons e rest ih => exact ih (increasing_enter h)

lemma lookup_eq_none_of_lt {key : String} {es : List (String × Json)}
    (h : ∀ e ∈ es, key < e.1) : lookup key es = none := by
  induction es with
  | nil => rfl
  | cons e rest ih =>
    obtain ⟨k, v⟩ := e
    have hk : k ≠ key := (h (k, v) (by simp)).ne'
    rw [lookup, if_neg hk]
    exact ih fun f hf => h f (List.mem_cons_of_mem _ hf)

/-- Entering a member leaves the other answers alone. -/
lemma lookup_enter_of_ne {key other : String} (value : Json) (es : List (String × Json))
    (h : other ≠ key) : lookup other (enter key value es) = lookup other es := by
  induction es with
  | nil => simp [enter, lookup, Ne.symm h]
  | cons e rest ih =>
    obtain ⟨k, v⟩ := e
    simp only [enter]
    split
    · rename_i hk
      subst hk
      simp [lookup, Ne.symm h]
    · split
      · simp [lookup, Ne.symm h]
      · simp [lookup, ih]

lemma lookup_enter (key other : String) (value : Json) (es : List (String × Json)) :
    lookup other (enter key value es) = if other = key then some value else lookup other es := by
  split
  · rename_i h
    rw [h, lookup_enter_self]
  · rename_i h
    exact lookup_enter_of_ne value es h

lemma lookup_append (key : String) (es fs : List (String × Json)) :
    lookup key (es ++ fs) = (lookup key es).or (lookup key fs) := by
  induction es with
  | nil => simp [lookup]
  | cons e rest ih =>
    obtain ⟨k, v⟩ := e
    simp only [List.cons_append, lookup]
    split
    · simp
    · exact ih

/-- Members answer with the value that was entered last. -/
lemma lookup_foldl_enter (key : String) (es acc : List (String × Json)) :
    lookup key (es.foldl (fun acc e => enter e.1 e.2 acc) acc) =
      (lookup key es.reverse).or (lookup key acc) := by
  induction es generalizing acc with
  | nil => simp [lookup]
  | cons e rest ih =>
    obtain ⟨k, v⟩ := e
    rw [List.foldl_cons, ih, lookup_enter, List.reverse_cons, lookup_append]
    by_cases hk : key = k
    · subst hk
      cases lookup key rest.reverse <;> simp [lookup]
    · simp [lookup, hk, Ne.symm hk]

/-- Members are looked up as the entries of a table are. -/
lemma lookup_eq_lookup (key : String) (es : List (String × Json)) :
    lookup key es = Table.lookup key es := by
  induction es with
  | nil => rfl
  | cons e rest ih =>
    obtain ⟨k, v⟩ := e
    rw [lookup, Table.lookup, ih]

lemma lookup_isSome_iff {key : String} {es : List (String × Json)} :
    (lookup key es).isSome ↔ key ∈ es.map Prod.fst := by
  rw [lookup_eq_lookup]
  exact Table.lookup_isSome_iff

lemma lookup_eq_none_iff {key : String} {es : List (String × Json)} :
    lookup key es = none ↔ key ∉ es.map Prod.fst := by
  rw [← lookup_isSome_iff, Option.not_isSome_iff_eq_none]

lemma mem_of_lookup_eq_some {key : String} {value : Json} {es : List (String × Json)}
    (h : lookup key es = some value) : (key, value) ∈ es :=
  Table.mem_of_lookup_eq_some (lookup_eq_lookup key es ▸ h)

/-- Members with distinct keys answer with what they hold. -/
lemma lookup_eq_some_of_mem {key : String} {value : Json} {es : List (String × Json)}
    (hnodup : (es.map Prod.fst).Nodup) (h : (key, value) ∈ es) : lookup key es = some value := by
  rw [lookup_eq_lookup]
  exact Table.lookup_eq_some_of_mem hnodup h

lemma Increasing.nodup {es : List (String × Json)} (h : Increasing es) :
    (es.map Prod.fst).Nodup :=
  List.pairwise_map.2 (List.Pairwise.imp (fun hlt => hlt.ne) h)

/-- No key below the first one has an answer. -/
lemma Increasing.le_of_lookup_isSome {key k : String} {v : Json} {es : List (String × Json)}
    (h : Increasing ((k, v) :: es)) (hkey : (lookup key ((k, v) :: es)).isSome) : k ≤ key := by
  by_contra hlt
  rw [not_le] at hlt
  have hnone : lookup key ((k, v) :: es) = none := by
    refine lookup_eq_none_of_lt (List.forall_mem_cons.2 ⟨hlt, fun e he => ?_⟩)
    exact hlt.trans ((List.pairwise_cons.1 h).1 e he)
  rw [hnone] at hkey
  cases hkey

/-- Members with increasing keys are determined by their answers.

**Proof sketch.** The first key of either list is the least one that has an answer, so the first
members agree; the later ones answer alike because the first key answers in neither rest. -/
lemma eq_of_lookup_eq {es fs : List (String × Json)} (hes : Increasing es) (hfs : Increasing fs)
    (h : ∀ key, lookup key es = lookup key fs) : es = fs := by
  have hfirst (k : String) (v : Json) (rest : List (String × Json)) :
      lookup k ((k, v) :: rest) = some v := by
    simp [lookup]
  induction es generalizing fs with
  | nil =>
    cases fs with
    | nil => rfl
    | cons f rest => cases (h f.1).trans (hfirst f.1 f.2 rest)
  | cons e rest ih =>
    obtain ⟨k, v⟩ := e
    cases fs with
    | nil => cases (hfirst k v rest).symm.trans (h k)
    | cons f rest' =>
      obtain ⟨l, w⟩ := f
      have hkl : k = l := by
        refine le_antisymm (hes.le_of_lookup_isSome ?_) (hfs.le_of_lookup_isSome ?_)
        · rw [h, hfirst]
          rfl
        · rw [← h, hfirst]
          rfl
      subst hkl
      obtain rfl : v = w := Option.some.inj ((hfirst k v rest).symm.trans ((h k).trans (hfirst ..)))
      obtain ⟨hk, hrest⟩ := List.pairwise_cons.1 hes
      obtain ⟨hl, hrest'⟩ := List.pairwise_cons.1 hfs
      congr 1
      refine ih hrest hrest' fun key => ?_
      by_cases hne : k = key
      · subst hne
        rw [lookup_eq_none_of_lt hk, lookup_eq_none_of_lt hl]
      · have := h key
        simpa [lookup, hne] using this

/-! ## Objects -/

/-- The members of the object of some entries. -/
def entered (es : List (String × Json)) : List (String × Json) :=
  es.foldl (fun acc e => enter e.1 e.2 acc) []

lemma object_eq (es : List (String × Json)) : object es = .members (entered es) := rfl

lemma increasing_entered (es : List (String × Json)) : Increasing (entered es) :=
  increasing_foldl_enter List.Pairwise.nil

/-- An object answers with the last value under a key. -/
lemma lookup_entered (key : String) (es : List (String × Json)) :
    lookup key (entered es) = lookup key es.reverse := by
  rw [entered, lookup_foldl_enter]
  simp [lookup]

/-- Where every key occurs once, the order of the entries does not matter. -/
lemma lookup_entered_of_nodup (key : String) {es : List (String × Json)}
    (h : (es.map Prod.fst).Nodup) : lookup key (entered es) = lookup key es := by
  rw [lookup_entered]
  cases hv : lookup key es with
  | none =>
    rw [lookup_eq_none_iff] at hv ⊢
    simpa using hv
  | some v =>
    refine lookup_eq_some_of_mem ?_ (by simpa using mem_of_lookup_eq_some hv)
    rw [List.map_reverse]
    exact List.pairwise_reverse.2 (h.imp Ne.symm)

lemma mem_keys_entered {key : String} {es : List (String × Json)} :
    key ∈ (entered es).map Prod.fst ↔ key ∈ es.map Prod.fst := by
  rw [← lookup_isSome_iff, lookup_entered, lookup_isSome_iff]
  simp

lemma lookup_essenceMembers (key : String) (es : List (String × Json)) :
    lookup key (essenceMembers es) = (lookup key es).map essence := by
  induction es with
  | nil => simp [essenceMembers, lookup]
  | cons e rest ih =>
    obtain ⟨k, v⟩ := e
    simp only [essenceMembers, essenceMember, lookup]
    split
    · rfl
    · exact ih

lemma increasing_essenceMembers {es : List (String × Json)} (h : Increasing es) :
    Increasing (essenceMembers es) := by
  rw [essenceMembers_eq_map]
  exact List.pairwise_map.2 h

/-- Objects are equal as values exactly if they answer alike. -/
lemma essence_object_eq_iff (es fs : List (String × Json)) :
    (object es).essence = (object fs).essence ↔
      ∀ key, (lookup key es.reverse).map essence = (lookup key fs.reverse).map essence := by
  simp only [object_eq, essence, members.injEq]
  constructor
  · intro h key
    rw [← lookup_entered, ← lookup_entered, ← lookup_essenceMembers, ← lookup_essenceMembers, h]
  · intro h
    refine eq_of_lookup_eq (increasing_essenceMembers (increasing_entered es))
      (increasing_essenceMembers (increasing_entered fs)) fun key => ?_
    rw [lookup_essenceMembers, lookup_essenceMembers, lookup_entered, lookup_entered, h]

/-! ## Collections under a key -/

/-- The items of the array under a key. -/
def itemsAt (key : String) (v : Json) : List Json :=
  match v.get? key with
  | some (.array xs) => xs
  | _ => []

/-- The keys of the object under a key. -/
def keysAt (key : String) (v : Json) : List String :=
  match v.get? key with
  | some (.members es) => es.map Prod.fst
  | _ => []

/-- Under a key there is an array, if there is anything. -/
def ArrayAt (key : String) (v : Json) : Prop :=
  v.get? key = none ∨ ∃ xs, v.get? key = some (.array xs)

/-- Under a key there is an object, if there is anything. -/
def ObjectAt (key : String) (v : Json) : Prop :=
  v.get? key = none ∨ ∃ es, v.get? key = some (.members es)

lemma essence_get? (v : Json) (key : String) :
    v.essence.get? key = (v.get? key).map essence := by
  cases v with
  | members es => exact lookup_essenceMembers key es
  | _ => rfl

lemma essence_itemsAt (v : Json) (key : String) :
    v.essence.itemsAt key = (v.itemsAt key).map essence := by
  rw [itemsAt, itemsAt, essence_get?]
  rcases v.get? key with - | w
  · rfl
  · cases w <;> simp [essence, essenceItems_eq_map]

lemma essence_keysAt (v : Json) (key : String) : v.essence.keysAt key = v.keysAt key := by
  rw [keysAt, keysAt, essence_get?]
  rcases v.get? key with - | w
  · rfl
  · cases w <;> simp [essence, essenceMembers_eq_map]

end Json

end ApiLowering
