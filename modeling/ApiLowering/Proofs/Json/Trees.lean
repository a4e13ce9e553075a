import ApiLowering.Json.Reader
import ApiLowering.Document.Fields
import ApiLowering.Proofs.Json.Merging
import ApiLowering.Proofs.Schema.ReadBack

/-!
# Sound trees

What a JSON text is read as is a tree without spellings and without numbers that are not finite.
Such a tree is sound. If no record of it repeats a key it is sound in a second sense: then nothing
in it can be a reference that is not read as one. Soundness passes to all parts of a tree.

## Main definitions

* `Soundness` — the two kinds of soundness.
* `Tree.Sound` — a tree is sound.
* `Tree.distinct` — no record in a tree repeats a key.

## Main results

* `Tree.sound_ofJson` — the tree of a tidy value is sound.
* `Tree.Sound.settle?` — giving up spellings keeps a tree sound.
* `Json.sound_of_readTree?` — what a text is read as is sound.
-/

namespace ApiLowering

/-- What is asked of a thing that is read and written. -/
inductive Soundness where
  /-- It is such as readers return it. -/
  | tidy
  /-- Nothing in it is taken for a reference that is none. -/
  | straight
deriving DecidableEq

/-- A leaf without a spelling, whose value is finite. -/
def Leaf.Plain (l : Leaf) : Prop := ∃ s, s ≠ .nonFinite ∧ l = .ofScalar s

namespace Tree

/-- The keys of some entries that are texts. -/
def keys (es : List (Leaf × Tree)) : List String := es.filterMap (·.1.text?)

/-- All leaves are plain and no collection has a tag of its own; and for a tree that is straight, no
record repeats a key. -/
inductive Sound (k : Soundness) : Tree → Prop
  | leaf {l : Leaf} : l.Plain → Sound k (.leaf l)
  | list {xs : List Tree} {positional : Bool} : (∀ x ∈ xs, Sound k x) →
    Sound k (.list xs positional)
  | record {es : List (Leaf × Tree)} : (∀ e ∈ es, e.1.Plain) → (∀ e ∈ es, Sound k e.2) →
    (k = .straight → (keys es).Nodup) → Sound k (.record es)

/-! ## Repeated keys -/

mutual

/-- No record in a tree repeats a key. -/
def distinct : Tree → Bool
  | .leaf _ => true
  | .list xs _ => distinctItems xs
  | .record es => (keys es).Nodup && distinctEntries es
  | .marked t => distinct t

/-- No record in any of some trees repeats a key. -/
def distinctItems : List Tree → Bool
  | [] => true
  | x :: xs => distinct x && distinctItems xs

/-- No record in any of some entries repeats a key. -/
def distinctEntries : List (Leaf × Tree) → Bool
  | [] => true
  | e :: es => distinctEntry e && distinctEntries es

/-- No record in an entry repeats a key. -/
def distinctEntry : Leaf × Tree → Bool
  | (_, t) => distinct t

end

lemma distinctItems_iff {xs : List Tree} :
    distinctItems xs = true ↔ ∀ x ∈ xs, x.distinct = true := by
  induction xs with
  | nil => simp [distinctItems]
  | cons x xs ih => simp [distinctItems, ih]

lemma distinctEntries_iff {es : List (Leaf × Tree)} :
    distinctEntries es = true ↔ ∀ e ∈ es, e.2.distinct = true := by
  induction es with
  | nil => simp [distinctEntries]
  | cons e es ih =>
    obtain ⟨l, t⟩ := e
    simp [distinctEntries, distinctEntry, ih]

/-- A sound tree without repeated keys is straight. -/
lemma Sound.straight_of_distinct {t : Tree} (h : t.Sound .tidy) (hdistinct : t.distinct = true) :
    t.Sound .straight := by
  induction h with
  | leaf hl => exact .leaf hl
  | list _ ih =>
    rw [distinct, distinctItems_iff] at hdistinct
    exact .list fun x hx => ih x hx (hdistinct x hx)
  | record hplain _ _ ih =>
    rw [distinct, Bool.and_eq_true, distinctEntries_iff, decide_eq_true_iff] at hdistinct
    exact .record hplain (fun e he => ih e he (hdistinct.2 e he)) fun _ => hdistinct.1

/-! ## Parts -/

section Parts

variable {k : Soundness} {t : Tree}

lemma Sound.exists_list {xs : List Tree} (h : t.Sound k) (hxs : t.items? = some xs) :
    ∃ positional, t = .list xs positional := by
  cases h with
  | leaf hl =>
    obtain ⟨s, -, rfl⟩ := hl
    cases hxs
  | @list _ positional _ =>
    exact ⟨positional, congrArg (Tree.list · positional) (Option.some.inj hxs)⟩
  | record => cases hxs

lemma Sound.eq_record {es : List (Leaf × Tree)} (h : t.Sound k) (hes : t.entries? = some es) :
    t = .record es := by
  cases h with
  | leaf hl =>
    obtain ⟨s, -, rfl⟩ := hl
    cases hes
  | list _ => cases hes
  | record => exact congrArg Tree.record (Option.some.inj hes)

/-- A sound tree stands for a missing value only if it is null. -/
lemma Sound.isNull?_eq_some (h : t.Sound k) :
    t.isNull? = some (t.toJson?.any Json.isNull) := by
  cases h with
  | leaf hl =>
    obtain ⟨s, hs, rfl⟩ := hl
    cases s <;> first | rfl | exact absurd rfl hs
  | @list xs _ _ =>
    rw [toJson?]
    cases itemsJson? xs <;> rfl
  | @record es _ _ _ =>
    rw [toJson?]
    cases entriesJson? es <;> rfl

/-- A text stands for no missing value. -/
lemma Sound.isNull?_of_text? {s : String} (h : t.Sound k) (hs : t.text? = some s) :
    t.isNull? = some false := by
  cases h with
  | leaf hl =>
    obtain ⟨v, -, rfl⟩ := hl
    cases v <;> first | rfl | cases hs
  | list => cases hs
  | record => cases hs

end Parts

/-! ## Trees of values -/

lemma keys_ofMembers (es : List (String × Json)) : keys (ofMembers es) = es.map Prod.fst := by
  rw [keys, ofMembers_eq_map, List.filterMap_map]
  exact congrFun List.filterMap_eq_map' es

/-- The tree of a tidy value is sound. -/
theorem sound_ofJson {k : Soundness} {v : Json} (h : v.Tidy) : (ofJson v).Sound k := by
  induction h with
  | null => exact .leaf ⟨.null, nofun, rfl⟩
  | bool b => exact .leaf ⟨.bool b, nofun, rfl⟩
  | number n => exact .leaf ⟨.number n, nofun, rfl⟩
  | string s => exact .leaf ⟨.text s, nofun, rfl⟩
  | @array xs _ ih =>
    rw [ofJson, ofItems_eq_map]
    exact .list (List.forall_mem_map.2 ih)
  | @members es hincreasing _ ih =>
    rw [ofJson]
    refine .record ?_ ?_ fun _ => (keys_ofMembers es).symm ▸ hincreasing.nodup
    · rw [ofMembers_eq_map]
      exact List.forall_mem_map.2 fun e _ => ⟨.text e.1, nofun, rfl⟩
    · rw [ofMembers_eq_map]
      exact List.forall_mem_map.2 ih

/-! ## Settled trees -/

lemma settleItems?_eq_mapM (xs : List Tree) : settleItems? xs = xs.mapM settle? := by
  induction xs with
  | nil => rw [settleItems?, List.mapM_nil]; rfl
  | cons x xs ih => rw [settleItems?, ih, List.mapM_cons]

lemma settleEntries?_eq_mapM (es : List (Leaf × Tree)) :
    settleEntries? es = es.mapM settleEntry? := by
  induction es with
  | nil => rw [settleEntries?, List.mapM_nil]; rfl
  | cons e es ih => rw [settleEntries?, ih, List.mapM_cons]

lemma eq_of_settle?_plain {l l' : Leaf} (hl : l.Plain) (h : l.settle? = some l') : l' = l := by
  obtain ⟨s, -, rfl⟩ := hl
  cases s <;> cases h <;> rfl

lemma settled_entry {e f : Leaf × Tree} (hplain : e.1.Plain) (h : settleEntry? e = some f) :
    f.1 = e.1 ∧ settle? e.2 = some f.2 := by
  obtain ⟨key, t⟩ := e
  simp only [Option.bind_eq_bind, settleEntry?, Option.bind_eq_some_iff, Option.pure_def,
    Option.some.injEq] at h
  obtain ⟨key', hkey, t', ht, rfl⟩ := h
  exact ⟨eq_of_settle?_plain hplain hkey, ht⟩

/-- Giving up spellings keeps a tree sound. -/
theorem Sound.settle? {k : Soundness} {t u : Tree} (h : t.Sound k) (hu : t.settle? = some u) :
    u.Sound k := by
  induction h generalizing u with
  | leaf hl =>
    rw [Tree.settle?] at hu
    obtain ⟨l', hl', rfl⟩ := Option.map_eq_some_iff.1 hu
    exact .leaf (eq_of_settle?_plain hl hl' ▸ hl)
  | list _ ih =>
    rw [Tree.settle?, settleItems?_eq_mapM] at hu
    obtain ⟨ys, hys, rfl⟩ := Option.map_eq_some_iff.1 hu
    refine .list fun y hy => ?_
    obtain ⟨x, hx, hxy⟩ := exists_mem_right_of_forall₂ (forall₂_of_mapM_eq_some hys) hy
    exact ih x hx hxy
  | @record es hplain _ hdistinct ih =>
    rw [Tree.settle?, settleEntries?_eq_mapM] at hu
    obtain ⟨fs, hfs, rfl⟩ := Option.map_eq_some_iff.1 hu
    have hread := forall₂_of_mapM_eq_some hfs
    have hkeys : keys fs = keys es := by
      clear * - hplain hread
      induction hread with
      | nil => rfl
      | @cons e f es fs hef _ ih =>
        have hkey := (settled_entry (hplain e List.mem_cons_self) hef).1
        rw [keys, List.filterMap_cons, hkey, keys, List.filterMap_cons]
        have hrest := ih fun d hd => hplain d (List.mem_cons_of_mem _ hd)
        rw [keys, keys] at hrest
        rw [hrest]
    refine .record (fun f hf => ?_) (fun f hf => ?_) fun hk => hkeys ▸ hdistinct hk
    · obtain ⟨e, he, hef⟩ := exists_mem_right_of_forall₂ hread hf
      exact (settled_entry (hplain e he) hef).1 ▸ hplain e he
    · obtain ⟨e, he, hef⟩ := exists_mem_right_of_forall₂ hread hf
      exact ih e he (settled_entry (hplain e he) hef).2

/-- A sound tree that is kept as a text is one. -/
lemma Sound.eq_leaf {k : Soundness} {t : Tree} {s : String} (h : t.Sound k)
    (hvalue : t.settle?.bind toJson? = some (.string s)) : t = .leaf (.ofText s) := by
  obtain ⟨u, hu, hs⟩ := Option.bind_eq_some_iff.1 hvalue
  cases h with
  | leaf hl =>
    rw [Tree.settle?] at hu
    obtain ⟨l', hl', rfl⟩ := Option.map_eq_some_iff.1 hu
    obtain rfl := eq_of_settle?_plain hl hl'
    obtain ⟨v, -, rfl⟩ := hl
    rw [toJson?] at hs
    cases v <;> cases hs
    rfl
  | list =>
    rw [Tree.settle?] at hu
    obtain ⟨ys, -, rfl⟩ := Option.map_eq_some_iff.1 hu
    rw [toJson?] at hs
    obtain ⟨_, -, hs⟩ := Option.map_eq_some_iff.1 hs
    cases hs
  | record =>
    rw [Tree.settle?] at hu
    obtain ⟨fs, -, rfl⟩ := Option.map_eq_some_iff.1 hu
    rw [toJson?] at hs
    obtain ⟨_, -, hs⟩ := Option.map_eq_some_iff.1 hs
    cases hs

end Tree

/-! ## Texts -/

namespace Json

lemma plain_of_readString? {fuel : Nat} {cs rest : List Char} {l : Leaf}
    (h : readString? fuel cs = some (l, rest)) : l.Plain := by
  simp only [readString?, Option.bind_eq_bind, Option.bind_eq_some_iff, Option.pure_def] at h
  obtain ⟨ps, -, h⟩ := h
  split at h <;> cases h
  · exact ⟨.text _, by simp, rfl⟩
  · exact ⟨.unreadable, by simp, rfl⟩

lemma sound_bounded {depth : Nat} {t : Tree} (h : t.Sound .tidy) :
    (bounded depth t).Sound .tidy := by
  rw [bounded]
  split
  · exact h
  · exact .leaf ⟨.unreadable, nofun, rfl⟩

/-- What a reader returns with some fuel is sound: values, and the contents of lists and records. -/
structure ReadsSoundly (fuel : Nat) : Prop where
  value : ∀ depth cs t rest, readValue? fuel depth cs = some (t, rest) → t.Sound .tidy
  items : ∀ depth cs xs rest, readItems? fuel depth cs = some (xs, rest) → ∀ x ∈ xs, x.Sound .tidy
  entries : ∀ depth cs es rest, readEntries? fuel depth cs = some (es, rest) →
    ∀ e ∈ es, e.1.Plain ∧ e.2.Sound .tidy

namespace ReadsSoundly

variable {fuel depth : Nat} {cs rest : List Char}

lemma value_succ (ih : ReadsSoundly fuel) {t : Tree}
    (h : readValue? (fuel + 1) depth cs = some (t, rest)) : t.Sound .tidy := by
  have hleaf {s : Scalar} (hs : s ≠ .nonFinite) : (Tree.leaf (.ofScalar s)).Sound .tidy :=
    .leaf ⟨s, hs, rfl⟩
  rw [readValue?] at h
  split at h
  · cases h
  · -- a string
    obtain ⟨⟨l, _⟩, hl, heq⟩ := Option.map_eq_some_iff.1 h
    cases heq
    exact .leaf (plain_of_readString? hl)
  · -- a list
    split at h
    · cases h
      exact sound_bounded (.list (List.forall_mem_nil _))
    · obtain ⟨⟨xs, _⟩, hxs, heq⟩ := Option.map_eq_some_iff.1 h
      cases heq
      exact sound_bounded (.list (ih.items _ _ _ _ hxs))
  · -- a record
    split at h
    · cases h
      exact sound_bounded (.record (List.forall_mem_nil _) (List.forall_mem_nil _) nofun)
    · obtain ⟨⟨es, _⟩, hes, heq⟩ := Option.map_eq_some_iff.1 h
      cases heq
      have hes := ih.entries _ _ _ _ hes
      exact sound_bounded (.record (fun e he => (hes e he).1) (fun e he => (hes e he).2) nofun)
  · -- a word or a number
    split at h
    · obtain ⟨_, -, heq⟩ := Option.map_eq_some_iff.1 h
      cases heq
      exact hleaf nofun
    · split at h
      · obtain ⟨_, -, heq⟩ := Option.map_eq_some_iff.1 h
        cases heq
        exact hleaf nofun
      · split at h
        · obtain ⟨_, -, heq⟩ := Option.map_eq_some_iff.1 h
          cases heq
          exact hleaf nofun
        · obtain ⟨⟨l, _⟩, -, heq⟩ := Option.map_eq_some_iff.1 h
          cases heq
          cases l <;> exact hleaf nofun

lemma items_succ (ih : ReadsSoundly fuel) {xs : List Tree}
    (h : readItems? (fuel + 1) depth cs = some (xs, rest)) : ∀ x ∈ xs, x.Sound .tidy := by
  simp only [readItems?, Option.bind_eq_bind, Option.bind_eq_some_iff] at h
  obtain ⟨⟨x, _⟩, hx, h⟩ := h
  have hx := ih.value _ _ _ _ hx
  split at h
  · obtain ⟨⟨ys, _⟩, hys, heq⟩ := Option.bind_eq_some_iff.1 h
    cases heq
    exact List.forall_mem_cons.2 ⟨hx, ih.items _ _ _ _ hys⟩
  · cases h
    exact List.forall_mem_singleton.2 hx
  · cases h

lemma entries_succ (ih : ReadsSoundly fuel) {es : List (Leaf × Tree)}
    (h : readEntries? (fuel + 1) depth cs = some (es, rest)) :
    ∀ e ∈ es, e.1.Plain ∧ e.2.Sound .tidy := by
  rw [readEntries?] at h
  split at h
  · obtain ⟨⟨key, _⟩, hkey, h⟩ := Option.bind_eq_some_iff.1 h
    have hkey := plain_of_readString? hkey
    dsimp only at h
    split at h
    · obtain ⟨⟨v, _⟩, hv, h⟩ := Option.bind_eq_some_iff.1 h
      have hv := ih.value _ _ _ _ hv
      dsimp only at h
      split at h
      · obtain ⟨⟨fs, _⟩, hfs, heq⟩ := Option.bind_eq_some_iff.1 h
        cases heq
        exact List.forall_mem_cons.2 ⟨⟨hkey, hv⟩, ih.entries _ _ _ _ hfs⟩
      · cases h
        exact List.forall_mem_singleton.2 ⟨hkey, hv⟩
      · cases h
    · cases h
  · cases h

end ReadsSoundly

lemma readsSoundly (fuel : Nat) : ReadsSoundly fuel := by
  induction fuel with
  | zero =>
    refine ⟨fun _ _ _ _ h => ?_, fun _ _ _ _ h => ?_, fun _ _ _ _ h => ?_⟩
    · simp [readValue?] at h
    · simp [readItems?] at h
    · simp [readEntries?] at h
  | succ fuel ih =>
    exact ⟨fun _ _ _ _ => ih.value_succ, fun _ _ _ _ => ih.items_succ,
      fun _ _ _ _ => ih.entries_succ⟩

/-- **What a text is read as is sound.** -/
theorem sound_of_readTree? {s : String} {t : Tree} (h : readTree? s = some t) :
    t.Sound .tidy := by
  obtain ⟨⟨u, rest⟩, hu, h⟩ := Option.bind_eq_some_iff.1 h
  dsimp only at h
  split at h <;> cases h
  exact (readsSoundly _).value _ _ _ _ hu

end Json

end ApiLowering
