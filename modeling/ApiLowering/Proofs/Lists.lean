import ApiLowering.Distinct
import Mathlib.Data.List.Forall2
import Mathlib.Data.List.Induction
import Mathlib.Data.List.Nodup
import Mathlib.Tactic.Lemma
import Mathlib.Tactic.Tauto

/-!
# Lists

Dropping repetitions loses nothing that the test for equality can see: every element keeps a
representative, and a list without repetitions stays as it is. A list that is read item by item
pairs each item with what is read from it.

## Main results

* `exists_same_mem_distinctWith` — every element has an equal one among those that stay.
* `distinctWith_eq_self_iff` — exactly the lists without repetitions stay as they are.
* `mem_addNewBy`, `exists_same_mem_addNewBy` — what a list with additions holds.
* `forall₂_of_mapM_eq_some` — the items of a list and what is read from them.
* `exists_flatten_of_forall₂` — what corresponds to the items of several lists.
-/

namespace ApiLowering

variable {α β : Type} {same : α → α → Bool}

/-! ## Dropping repetitions -/

lemma exists_same_mem_distinctFrom (hrefl : ∀ x, same x x = true) (kept : List α) {xs : List α}
    {x : α} (h : x ∈ xs) : ∃ y, (y ∈ kept ∨ y ∈ distinctFrom same kept xs) ∧ same y x = true := by
  induction xs generalizing kept with
  | nil => simp at h
  | cons z rest ih =>
    simp only [distinctFrom]
    rcases List.mem_cons.1 h with rfl | h
    · split
      · rename_i hx
        obtain ⟨y, hy, hyx⟩ := List.any_eq_true.1 hx
        exact ⟨y, .inl hy, hyx⟩
      · exact ⟨x, .inr (by simp), hrefl x⟩
    · split
      · exact ih _ h
      · obtain ⟨y, hy, hyx⟩ := ih (kept ++ [z]) h
        refine ⟨y, ?_, hyx⟩
        simp only [List.mem_append, List.mem_cons] at hy ⊢
        tauto

/-- Every element has an equal one among those that stay. -/
lemma exists_same_mem_distinctWith (hrefl : ∀ x, same x x = true) {xs : List α} {x : α}
    (h : x ∈ xs) : ∃ y ∈ distinctWith same xs, same y x = true := by
  obtain ⟨y, hy | hy, hyx⟩ := exists_same_mem_distinctFrom hrefl [] h
  · simp at hy
  · exact ⟨y, hy, hyx⟩

lemma mem_of_mem_distinctWith {xs : List α} {x : α} (h : x ∈ distinctWith same xs) : x ∈ xs :=
  (distinctWith_sublist same xs).subset h

/-- The elements that stay equal none before them. -/
lemma distinctWith_pairwise (same : α → α → Bool) (xs : List α) :
    (distinctWith same xs).Pairwise fun a b => same a b = false :=
  distinctFrom_pairwise same [] xs

lemma distinctFrom_eq_self {kept xs : List α} (hkept : ∀ y ∈ kept, ∀ x ∈ xs, same y x = false)
    (hxs : xs.Pairwise fun a b => same a b = false) : distinctFrom same kept xs = xs := by
  induction xs generalizing kept with
  | nil => rfl
  | cons x rest ih =>
    obtain ⟨hx, hrest⟩ := List.pairwise_cons.1 hxs
    have hnone : ¬ kept.any (same · x) = true := by
      simp only [List.any_eq_true, not_exists, not_and, Bool.not_eq_true]
      exact fun y hy => hkept y hy x (by simp)
    rw [distinctFrom, if_neg hnone, ih _ hrest]
    intro y hy z hz
    rcases List.mem_append.1 hy with hy | hy
    · exact hkept y hy z (List.mem_cons_of_mem _ hz)
    · rw [List.mem_singleton.1 hy]
      exact hx z hz

/-- Exactly the lists without repetitions stay as they are. -/
lemma distinctWith_eq_self_iff {xs : List α} :
    distinctWith same xs = xs ↔ xs.Pairwise fun a b => same a b = false := by
  constructor
  · intro h
    rw [← h]
    exact distinctWith_pairwise same xs
  · exact distinctFrom_eq_self (by simp)

/-- The first elements of each key stay as they are if no key is repeated. -/
lemma distinctBy_eq_self_iff [BEq β] [LawfulBEq β] {key : α → β} {xs : List α} :
    distinctBy key xs = xs ↔ (xs.map key).Nodup := by
  rw [distinctBy, distinctWith_eq_self_iff, List.Nodup, List.pairwise_map]
  simp

/-- Without repetitions nothing is left to drop. -/
lemma distinctWith_distinctWith (same : α → α → Bool) (xs : List α) :
    distinctWith same (distinctWith same xs) = distinctWith same xs :=
  distinctWith_eq_self_iff.2 (distinctWith_pairwise same xs)

lemma distinctFrom_concat (same : α → α → Bool) (kept xs : List α) (x : α) :
    distinctFrom same kept (xs ++ [x]) = distinctFrom same kept xs ++
      if (kept ++ distinctFrom same kept xs).any (same · x) then [] else [x] := by
  induction xs generalizing kept with
  | nil => simp [distinctFrom]
  | cons y rest ih =>
    rw [List.cons_append, distinctFrom, distinctFrom]
    split
    · exact ih kept
    · rw [ih, List.cons_append, List.append_assoc, List.singleton_append]

/-- The last element stays if its key is new. -/
lemma distinctBy_concat [BEq β] [LawfulBEq β] [DecidableEq β] (key : α → β) (xs : List α) (x : α) :
    distinctBy key (xs ++ [x]) =
      if key x ∈ xs.map key then distinctBy key xs else distinctBy key xs ++ [x] := by
  have hany : (distinctBy key xs).any (fun y => key y == key x) = true ↔ key x ∈ xs.map key := by
    rw [← mem_map_distinctBy]
    simp
  have hstep : distinctBy key (xs ++ [x]) = distinctBy key xs ++
      if (distinctBy key xs).any (fun y => key y == key x) then [] else [x] :=
    distinctFrom_concat _ [] xs x
  rw [hstep]
  simp only [hany]
  split
  · exact List.append_nil _
  · rfl

/-- Nothing but the keys counts. -/
lemma distinctBy_map {γ : Type} [BEq γ] {key : α → γ} {key' : β → γ} {f : α → β}
    (hf : ∀ x, key' (f x) = key x) (xs : List α) :
    distinctBy key' (xs.map f) = (distinctBy key xs).map f := by
  have hfrom (kept : List α) : distinctFrom (fun a b => key' a == key' b) (kept.map f) (xs.map f) =
      (distinctFrom (fun a b => key a == key b) kept xs).map f := by
    induction xs generalizing kept with
    | nil => rfl
    | cons x rest ih =>
      have hany : (kept.map f).any (fun y => key' y == key' (f x)) =
          kept.any fun y => key y == key x := by
        rw [List.any_map]
        congr 1
        exact funext fun y => by simp only [Function.comp_apply, hf]
      rw [List.map_cons, distinctFrom, distinctFrom, hany]
      split
      · exact ih kept
      · have hrest := ih (kept ++ [x])
        rw [List.map_append, List.map_singleton] at hrest
        rw [hrest, List.map_cons]
  exact hfrom []

/-- The element that stays of those with one key is the first. -/
lemma find?_distinctBy [BEq β] [LawfulBEq β] (key : α → β) (xs : List α) (k : β) :
    (distinctBy key xs).find? (key · == k) = xs.find? (key · == k) := by
  have hfrom (kept : List α) (hkept : ∀ y ∈ kept, key y ≠ k) :
      (distinctFrom (fun a b => key a == key b) kept xs).find? (key · == k) =
        xs.find? (key · == k) := by
    induction xs generalizing kept with
    | nil => rfl
    | cons x rest ih =>
      rw [distinctFrom]
      by_cases hx : key x = k
      · have hnew : ¬kept.any (key · == key x) = true := by
          simpa [hx] using hkept
        rw [if_neg hnew, List.find?_cons_of_pos (by simpa using hx),
          List.find?_cons_of_pos (by simpa using hx)]
      · rw [List.find?_cons_of_neg (by simpa using hx)]
        split
        · exact ih kept hkept
        · rw [List.find?_cons_of_neg (by simpa using hx)]
          refine ih _ fun y hy => ?_
          rcases List.mem_append.1 hy with hy | hy
          · exact hkept y hy
          · rwa [List.mem_singleton.1 hy]
  exact hfrom [] (by simp)

lemma mem_distinctBy_id [BEq α] [LawfulBEq α] {xs : List α} {x : α} :
    x ∈ distinctBy id xs ↔ x ∈ xs := by
  simpa using mem_map_distinctBy id xs x

/-- What is there already need not come again. -/
lemma distinctBy_append_of_subset [DecidableEq α] {xs ys : List α} (h : ys ⊆ xs) :
    distinctBy id (xs ++ ys) = distinctBy id xs := by
  induction ys using List.reverseRecOn with
  | nil => rw [List.append_nil]
  | append_singleton ys y ih =>
    obtain ⟨hys, hy⟩ := List.append_subset.1 h
    have hmem : y ∈ xs ++ ys := List.mem_append_left _ (hy (List.mem_singleton_self y))
    rw [← List.append_assoc, distinctBy_concat, List.map_id, id_eq, if_pos hmem, ih hys]

/-- What follows a list counts alike if the list has the same elements in the same order of their
first occurrences. -/
lemma distinctBy_append_congr [DecidableEq α] {xs xs' : List α}
    (h : distinctBy id xs = distinctBy id xs') (ys : List α) :
    distinctBy id (xs ++ ys) = distinctBy id (xs' ++ ys) := by
  have hmem (x : α) : x ∈ xs ↔ x ∈ xs' := by
    rw [← mem_distinctBy_id, h, mem_distinctBy_id]
  induction ys using List.reverseRecOn with
  | nil => rwa [List.append_nil, List.append_nil]
  | append_singleton ys y ih =>
    simp only [← List.append_assoc, distinctBy_concat, List.map_id, List.mem_append, hmem, ih]

/-- Lists that equal elements have in common may be taken from the first of these alone. -/
lemma distinctBy_flatMap_distinctWith [DecidableEq β] {f : α → List β} {xs : List α}
    (h : ∀ x ∈ xs, ∀ y ∈ xs, same x y = true → f y ⊆ f x) :
    distinctBy id ((distinctWith same xs).flatMap f) = distinctBy id (xs.flatMap f) := by
  induction xs using List.reverseRecOn with
  | nil => rfl
  | append_singleton xs x ih =>
    have hstep : distinctWith same (xs ++ [x]) = distinctWith same xs ++
        if (distinctWith same xs).any (same · x) then [] else [x] :=
      distinctFrom_concat same [] xs x
    have hrest := ih fun y hy z hz =>
      h y (List.mem_append_left _ hy) z (List.mem_append_left _ hz)
    rw [hstep, List.flatMap_append, List.flatMap_append, List.flatMap_singleton]
    split
    · rename_i hany
      obtain ⟨y, hy, hsame⟩ := List.any_eq_true.1 hany
      have hy : y ∈ xs := mem_of_mem_distinctWith hy
      have hsub : f x ⊆ f y := h y (List.mem_append_left _ hy) x
        (List.mem_append_right _ (List.mem_singleton_self x)) hsame
      rw [List.flatMap_nil, List.append_nil, hrest, distinctBy_append_of_subset]
      exact fun z hz => List.mem_flatMap.2 ⟨y, hy, hsub hz⟩
    · rw [List.flatMap_singleton]
      exact distinctBy_append_congr hrest (f x)

/-! ## Adding what is new -/

/-- Nothing is added that was not in either list, and the order is kept. -/
lemma addNewBy_sublist (same : α → α → Bool) (xs more : List α) :
    (addNewBy same xs more).Sublist (xs ++ more) := by
  induction more generalizing xs with
  | nil => simp [addNewBy]
  | cons y rest ih =>
    rw [addNewBy, List.foldl_cons]
    split
    · exact (ih xs).trans (List.Sublist.append_left (List.sublist_cons_self y rest) xs)
    · have h := ih (xs ++ [y])
      rwa [List.append_assoc, List.singleton_append] at h

lemma mem_addNewBy {xs more : List α} {x : α} (h : x ∈ addNewBy same xs more) :
    x ∈ xs ∨ x ∈ more :=
  List.mem_append.1 ((addNewBy_sublist same xs more).subset h)

/-- What was there stays in front. -/
lemma prefix_addNewBy (same : α → α → Bool) (xs more : List α) : xs <+: addNewBy same xs more := by
  induction more generalizing xs with
  | nil => exact List.prefix_rfl
  | cons y rest ih =>
    rw [addNewBy, List.foldl_cons]
    split
    · exact ih xs
    · exact (List.prefix_append xs [y]).trans (ih _)

/-- Additions come from the second list. -/
lemma exists_addNewBy_eq_append (same : α → α → Bool) (xs more : List α) :
    ∃ added, addNewBy same xs more = xs ++ added ∧ added ⊆ more := by
  obtain ⟨added, hadded⟩ := prefix_addNewBy same xs more
  refine ⟨added, hadded.symm, List.Sublist.subset ?_⟩
  have hsub := addNewBy_sublist same xs more
  rwa [← hadded, List.append_sublist_append_left] at hsub

/-- Adding what is new commutes with a function that the test sees through. -/
lemma map_addNewBy (f : α → β) (same : β → β → Bool) (xs more : List α) :
    (addNewBy (fun a b => same (f a) (f b)) xs more).map f =
      addNewBy same (xs.map f) (more.map f) := by
  induction more generalizing xs with
  | nil => rfl
  | cons y rest ih =>
    have hany : (xs.map f).any (same · (f y)) = xs.any fun x => same (f x) (f y) := List.any_map
    rw [addNewBy, List.foldl_cons, ← addNewBy, ih, List.map_cons, addNewBy, addNewBy,
      List.foldl_cons, hany]
    split
    · rfl
    · rw [List.map_append]
      rfl

/-- Nothing is added if all of it is there. -/
lemma addNewBy_eq_self {xs more : List α} (h : ∀ y ∈ more, ∃ x ∈ xs, same x y = true) :
    addNewBy same xs more = xs := by
  induction more with
  | nil => rfl
  | cons y rest ih =>
    obtain ⟨hy, hrest⟩ := List.forall_mem_cons.1 h
    rw [addNewBy, List.foldl_cons, if_pos (List.any_eq_true.2 hy)]
    exact ih hrest

/-- Nothing that was there is lost. -/
lemma mem_addNewBy_of_mem {xs more : List α} {x : α} (h : x ∈ xs) : x ∈ addNewBy same xs more := by
  induction more generalizing xs with
  | nil => exact h
  | cons y rest ih =>
    rw [addNewBy, List.foldl_cons]
    refine ih ?_
    split
    · exact h
    · exact List.mem_append_left _ h

/-- Every addition has an equal element in the list. -/
lemma exists_same_mem_addNewBy (hrefl : ∀ x, same x x = true) {xs more : List α} {x : α}
    (h : x ∈ more) : ∃ y ∈ addNewBy same xs more, same y x = true := by
  induction more generalizing xs with
  | nil => simp at h
  | cons z rest ih =>
    rcases List.mem_cons.1 h with rfl | h
    · by_cases hx : xs.any (same · x) = true
      · obtain ⟨y, hy, hyx⟩ := List.any_eq_true.1 hx
        exact ⟨y, mem_addNewBy_of_mem hy, hyx⟩
      · refine ⟨x, ?_, hrefl x⟩
        rw [addNewBy, List.foldl_cons, if_neg hx]
        exact mem_addNewBy_of_mem (by simp)
    · rw [addNewBy, List.foldl_cons]
      exact ih h

/-- Everything is there that was to be added. -/
lemma mem_addNew_of_mem [BEq α] [LawfulBEq α] {xs more : List α} {x : α} (h : x ∈ more) :
    x ∈ addNew xs more := by
  obtain ⟨y, hy, heq⟩ := exists_same_mem_addNewBy (fun x => beq_self_eq_true x) h
  exact eq_of_beq heq ▸ hy

/-- One element is added unless it is there. -/
lemma addNew_singleton [BEq α] [LawfulBEq α] [DecidableEq α] (xs : List α) (x : α) :
    addNew xs [x] = if x ∈ xs then xs else xs ++ [x] := by
  rw [addNew, addNewBy, List.foldl_cons, List.foldl_nil]
  refine if_congr ?_ rfl rfl
  simp

lemma mem_addNew [BEq α] [LawfulBEq α] {xs more : List α} {x : α} :
    x ∈ addNew xs more ↔ x ∈ xs ∨ x ∈ more :=
  ⟨mem_addNewBy, fun h => h.elim mem_addNewBy_of_mem mem_addNew_of_mem⟩

/-- Additions repeat nothing. -/
lemma nodup_addNew [BEq α] [LawfulBEq α] {xs more : List α} (h : xs.Nodup) :
    (addNew xs more).Nodup := by
  induction more generalizing xs with
  | nil => exact h
  | cons y rest ih =>
    rw [addNew, addNewBy, List.foldl_cons]
    refine ih ?_
    split
    · exact h
    · rename_i hnew
      exact h.append (List.nodup_singleton y) (by simpa using hnew)

/-! ## Reading item by item -/

lemma exists_mem_left_of_forall₂ {R : α → β → Prop} {xs : List α} {ys : List β}
    (h : List.Forall₂ R xs ys) {x : α} (hx : x ∈ xs) : ∃ y ∈ ys, R x y := by
  induction h with
  | nil => simp at hx
  | cons hab _ ih =>
    rcases List.mem_cons.1 hx with rfl | hx
    · exact ⟨_, by simp, hab⟩
    · obtain ⟨y, hy, hxy⟩ := ih hx
      exact ⟨y, List.mem_cons_of_mem _ hy, hxy⟩

lemma exists_mem_right_of_forall₂ {R : α → β → Prop} {xs : List α} {ys : List β}
    (h : List.Forall₂ R xs ys) {y : β} (hy : y ∈ ys) : ∃ x ∈ xs, R x y :=
  exists_mem_left_of_forall₂ h.flip hy

/-- The items of a list and what is read from them. -/
lemma forall₂_of_mapM_eq_some {f : α → Option β} {xs : List α} {ys : List β}
    (h : xs.mapM f = some ys) : List.Forall₂ (fun x y => f x = some y) xs ys := by
  induction xs generalizing ys with
  | nil =>
    obtain rfl := Option.some.inj h
    exact .nil
  | cons x xs ih =>
    simp only [List.mapM_cons, Option.bind_eq_bind, Option.bind_eq_some_iff, Option.pure_def,
      Option.some.injEq] at h
    obtain ⟨y, hy, rest, hrest, rfl⟩ := h
    exact .cons hy (ih hrest)

/-- Items correspond if there are items that both correspond to. -/
lemma forall₂_comp {γ : Type} {R : α → β → Prop} {S : β → γ → Prop} {xs : List α} {ys : List β}
    {zs : List γ} (h : List.Forall₂ R xs ys) (h' : List.Forall₂ S ys zs) :
    List.Forall₂ (fun x z => ∃ y, R x y ∧ S y z) xs zs := by
  induction h generalizing zs with
  | nil =>
    cases h'
    exact .nil
  | cons hxy _ ih =>
    cases h' with
    | cons hyz hrest => exact .cons ⟨_, hxy, hyz⟩ (ih hrest)

/-- What corresponds to the items of several lists is in as many lists. -/
lemma exists_flatten_of_forall₂ {R : α → β → Prop} {xss : List (List α)} {ys : List β}
    (h : List.Forall₂ R xss.flatten ys) :
    ∃ yss : List (List β), ys = yss.flatten ∧ List.Forall₂ (List.Forall₂ R) xss yss := by
  induction xss generalizing ys with
  | nil =>
    cases h
    exact ⟨[], rfl, .nil⟩
  | cons xs xss ih =>
    rw [List.flatten_cons] at h
    have hfirst := List.forall₂_take xs.length h
    have hrest := List.forall₂_drop xs.length h
    rw [List.take_left] at hfirst
    rw [List.drop_left] at hrest
    obtain ⟨yss, hyss, hall⟩ := ih hrest
    refine ⟨ys.take xs.length :: yss, ?_, .cons hfirst hall⟩
    rw [List.flatten_cons, ← hyss, List.take_append_drop]

/-- The items of a list are read one by one. -/
lemma mapM_eq_some_map_iff {f : α → Option β} {g : α → β} {xs : List α} :
    xs.mapM f = some (xs.map g) ↔ ∀ x ∈ xs, f x = some (g x) := by
  induction xs with
  | nil => simp
  | cons x xs ih =>
    rw [List.map_cons, List.mapM_cons, List.forall_mem_cons, ← ih]
    cases f x <;> cases xs.mapM f <;> simp

/-- A list that is read as it stands stays as it is. -/
lemma mapM_eq_some_self {f : α → Option α} {xs : List α} (h : ∀ x ∈ xs, f x = some x) :
    xs.mapM f = some xs := by
  have hmap := (mapM_eq_some_map_iff (g := id)).2 h
  rwa [List.map_id] at hmap

end ApiLowering
