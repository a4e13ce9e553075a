/-!
# Lists in order

A list is put in order by entering its elements one by one, from the last to the first, each before
the first element that may follow it. So elements of one rank keep their order.

## Main definitions

* `insertBy` — enters an element into a list in order.
* `sortBy` — the elements of a list in order.

## Main results

* `sortBy_perm` — nothing is added and nothing is lost.
* `pairwise_sortBy` — the elements are in order.
* `sortBy_of_pairwise` — a list in order stays as it is.
-/

namespace ApiLowering

variable {α : Type} {le : α → α → Bool}

/-- Enters an element before the first one that may follow it. -/
def insertBy (le : α → α → Bool) (x : α) : List α → List α
  | [] => [x]
  | y :: ys => if le x y then x :: y :: ys else y :: insertBy le x ys

/-- The elements in order; elements of one rank keep their order. -/
def sortBy (le : α → α → Bool) : List α → List α
  | [] => []
  | x :: xs => insertBy le x (sortBy le xs)

theorem insertBy_perm (le : α → α → Bool) (x : α) (xs : List α) :
    (insertBy le x xs).Perm (x :: xs) := by
  induction xs with
  | nil => exact .refl _
  | cons y ys ih =>
    rw [insertBy]
    split
    · exact .refl _
    · exact (ih.cons y).trans (.swap x y ys)

/-- Nothing is added and nothing is lost. -/
theorem sortBy_perm (le : α → α → Bool) (xs : List α) : (sortBy le xs).Perm xs := by
  induction xs with
  | nil => exact .refl _
  | cons x xs ih => exact (insertBy_perm le x _).trans (ih.cons x)

theorem pairwise_insertBy (htrans : ∀ a b c, le a b → le b c → le a c)
    (htotal : ∀ a b, le a b || le b a) {x : α} {xs : List α}
    (h : xs.Pairwise fun a b => le a b) : (insertBy le x xs).Pairwise fun a b => le a b := by
  induction xs with
  | nil => exact List.pairwise_singleton _ x
  | cons y ys ih =>
    obtain ⟨hy, hys⟩ := List.pairwise_cons.1 h
    rw [insertBy]
    split
    · rename_i hxy
      refine List.pairwise_cons.2 ⟨fun z hz => ?_, h⟩
      rcases List.mem_cons.1 hz with rfl | hz
      · exact hxy
      · exact htrans x y z hxy (hy z hz)
    · rename_i hxy
      refine List.pairwise_cons.2 ⟨fun z hz => ?_, ih hys⟩
      rcases List.mem_cons.1 ((insertBy_perm le x ys).mem_iff.1 hz) with rfl | hz
      · simpa [hxy] using htotal z y
      · exact hy z hz

/-- The elements are in order. -/
theorem pairwise_sortBy (htrans : ∀ a b c, le a b → le b c → le a c)
    (htotal : ∀ a b, le a b || le b a) (xs : List α) :
    (sortBy le xs).Pairwise fun a b => le a b := by
  induction xs with
  | nil => exact .nil
  | cons x xs ih => exact pairwise_insertBy htrans htotal ih

/-- A list in order stays as it is. -/
theorem sortBy_of_pairwise {xs : List α} (h : xs.Pairwise fun a b => le a b) :
    sortBy le xs = xs := by
  induction xs with
  | nil => rfl
  | cons x xs ih =>
    obtain ⟨hx, hxs⟩ := List.pairwise_cons.1 h
    rw [sortBy, ih hxs]
    cases xs with
    | nil => rfl
    | cons y ys => rw [insertBy, if_pos (hx y List.mem_cons_self)]

end ApiLowering
