/-!
# Lists without repetitions

## Main definitions

* `distinctWith` — the first of equal elements stays, by a test for equality.
* `distinctBy` — the first element of each key stays.
* `addNew`, `addNewBy` — adds the elements that are not there yet.
* `putBy` — replaces the equal element, or adds one.

## Main results

* `distinctWith_sublist` — nothing is added, and the order is kept.
* `map_distinctBy_nodup` — the keys of what stays are distinct.
* `mem_map_distinctBy` — no key is lost.
-/

namespace ApiLowering

variable {α β : Type}

/-- Keeps the elements that equal none of the kept ones. -/
def distinctFrom (same : α → α → Bool) (kept : List α) : List α → List α
  | [] => []
  | x :: rest =>
    if kept.any (same · x) then distinctFrom same kept rest
    else x :: distinctFrom same (kept ++ [x]) rest

/-- The first of several equal elements stays. -/
def distinctWith (same : α → α → Bool) (xs : List α) : List α := distinctFrom same [] xs

/-- The first of several elements with one key stays. -/
def distinctBy [BEq β] (key : α → β) (xs : List α) : List α :=
  distinctWith (fun a b => key a == key b) xs

/-- The elements of a list, then those of another that equal none before them. -/
def addNewBy (same : α → α → Bool) (xs more : List α) : List α :=
  more.foldl (fun acc x => if acc.any (same · x) then acc else acc ++ [x]) xs

/-- The elements of a list, then those of another that are not in it yet. -/
def addNew [BEq α] (xs more : List α) : List α := addNewBy (· == ·) xs more

/-- Replaces the first element that equals the new one, or adds the new one at the end. -/
def putBy (same : α → α → Bool) (x : α) : List α → List α
  | [] => [x]
  | y :: rest => if same y x then x :: rest else y :: putBy same x rest

theorem distinctFrom_sublist (same : α → α → Bool) (kept xs : List α) :
    (distinctFrom same kept xs).Sublist xs := by
  induction xs generalizing kept with
  | nil => exact .slnil
  | cons x rest ih =>
    simp only [distinctFrom]
    split
    · exact (ih kept).cons x
    · exact (ih _).cons_cons x

/-- Nothing is added, and the order is kept. -/
theorem distinctWith_sublist (same : α → α → Bool) (xs : List α) :
    (distinctWith same xs).Sublist xs :=
  distinctFrom_sublist same [] xs

theorem distinctFrom_of_mem {same : α → α → Bool} {kept xs : List α} {x : α}
    (h : x ∈ distinctFrom same kept xs) : ∀ y ∈ kept, same y x = false := by
  induction xs generalizing kept with
  | nil => simp [distinctFrom] at h
  | cons z rest ih =>
    simp only [distinctFrom] at h
    split at h
    · exact ih h
    · rename_i hz
      rcases List.mem_cons.1 h with rfl | h
      · intro y hy
        simp only [List.any_eq_true, not_exists, not_and, Bool.not_eq_true] at hz
        exact hz y hy
      · intro y hy
        exact ih h y (List.mem_append_left _ hy)

theorem distinctFrom_pairwise (same : α → α → Bool) (kept xs : List α) :
    (distinctFrom same kept xs).Pairwise fun a b => same a b = false := by
  induction xs generalizing kept with
  | nil => exact .nil
  | cons x rest ih =>
    simp only [distinctFrom]
    split
    · exact ih kept
    · refine .cons (fun y hy => ?_) (ih _)
      exact distinctFrom_of_mem hy x (by simp)

/-- The keys of what stays are distinct. -/
theorem map_distinctBy_nodup [BEq β] [LawfulBEq β] (key : α → β) (xs : List α) :
    ((distinctBy key xs).map key).Nodup := by
  refine List.pairwise_map.2 ((distinctFrom_pairwise _ [] xs).imp fun h => ?_)
  simpa using h

theorem mem_map_distinctFrom [BEq β] [LawfulBEq β] (key : α → β) (kept xs : List α) (k : β)
    (h : k ∈ xs.map key) :
    k ∈ kept.map key ∨ k ∈ (distinctFrom (fun a b => key a == key b) kept xs).map key := by
  induction xs generalizing kept with
  | nil => simp at h
  | cons x rest ih =>
    simp only [distinctFrom]
    rcases List.mem_cons.1 h with rfl | h
    · split
      · rename_i hx
        obtain ⟨y, hy, hxy⟩ := List.any_eq_true.1 hx
        exact .inl (List.mem_map.2 ⟨y, hy, eq_of_beq hxy⟩)
      · exact .inr (by simp)
    · split
      · exact ih kept h
      · rcases ih (kept ++ [x]) h with h | h
        · rw [List.map_append, List.mem_append] at h
          rcases h with h | h
          · exact .inl h
          · refine .inr ?_
            have : k = key x := by simpa using h
            simp [this]
        · exact .inr (List.mem_cons_of_mem _ h)

/-- No key is lost. -/
theorem mem_map_distinctBy [BEq β] [LawfulBEq β] (key : α → β) (xs : List α) (k : β) :
    k ∈ (distinctBy key xs).map key ↔ k ∈ xs.map key := by
  constructor
  · intro h
    obtain ⟨x, hx, rfl⟩ := List.mem_map.1 h
    exact List.mem_map_of_mem ((distinctWith_sublist _ xs).subset hx)
  · intro h
    rcases mem_map_distinctFrom key [] xs k h with h | h
    · simp at h
    · exact h

end ApiLowering
