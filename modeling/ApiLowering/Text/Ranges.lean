/-!
# Character ranges

A property of characters is stored as the list of its ranges of code points, and a change of case as
a list of evenly spaced runs that share one distance.

## Main definitions

* `Text.inRanges` — membership in a list of ranges.
* `Text.joinRanges` — the ranges in order, neighbours made one.
* `Text.Shift` — a run of characters that a mapping moves by one distance.

## Main results

* `Text.inRanges_joinRange` — joining ranges adds no member and loses none.
-/

namespace ApiLowering.Text

/-- Whether a code point lies in one of the ranges, ends included. -/
def inRanges (ranges : List (Nat × Nat)) (c : Char) : Bool :=
  ranges.any fun (first, last) => first ≤ c.toNat && c.toNat ≤ last

/-- Puts a range in front of ranges that start no earlier. It swallows those that it overlaps or
touches. -/
def joinRange (r : Nat × Nat) : List (Nat × Nat) → List (Nat × Nat)
  | [] => [r]
  | s :: rest => if s.1 ≤ r.2 + 1 then joinRange (r.1, max r.2 s.2) rest else r :: s :: rest

/-- Joining ranges adds no member and loses none. -/
theorem inRanges_joinRange (r : Nat × Nat) (rs : List (Nat × Nat)) (h : ∀ s ∈ rs, r.1 ≤ s.1)
    (c : Char) : inRanges (joinRange r rs) c = true ↔ inRanges (r :: rs) c = true := by
  induction rs generalizing r with
  | nil => rfl
  | cons s rest ih =>
    rw [joinRange]
    split
    · have hs := h s List.mem_cons_self
      rw [ih (r.1, max r.2 s.2) fun t ht => h t (List.mem_cons_of_mem s ht)]
      simp only [inRanges, List.any_cons, Bool.or_eq_true, Bool.and_eq_true, decide_eq_true_eq]
      rw [← or_assoc]
      exact or_congr (by omega) Iff.rfl
    · rfl

/-- The ranges in order, those that overlap or touch made one. -/
def joinRanges (ranges : List (Nat × Nat)) : List (Nat × Nat) :=
  (ranges.mergeSort fun r s => r.1 ≤ s.1).foldr joinRange []

/-- A run `(first, last, step, distance)`: the code points `first`, `first + step`, … up to `last`
move by `distance`. -/
abbrev Shift := Nat × Nat × Nat × Int

/-- Whether the run moves the character. -/
def Shift.covers (s : Shift) (c : Char) : Bool :=
  let (first, last, step, _) := s
  first ≤ c.toNat && c.toNat ≤ last && (c.toNat - first) % step == 0

/-- The character after the first run that covers it, or the character itself. -/
def shiftBy (shifts : List Shift) (c : Char) : Char :=
  match shifts.find? (Shift.covers · c) with
  | some (_, _, _, distance) => Char.ofNat (c.toNat + distance).toNat
  | none => c

end ApiLowering.Text
