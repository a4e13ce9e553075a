import ApiLowering.Endpoints.Unique
import ApiLowering.Proofs.Json.Literals
import Mathlib.Data.List.TakeWhile
import Mathlib.Logic.Function.Iterate

/-!
# Names told apart by numbers

Of the arguments with one name the first keeps it, and the others count up the numbers at the ends
of their names until they come to a name that no argument before them has. Numbers only grow along
the way, so no name is tried twice.

## Main definitions

* `NameNumber.rank` — the place of a name among those that are found by counting up.
* `Argument.TakesName` — an argument takes the first name in line that no earlier one has.

## Main results

* `NameNumber.rank_lt_rank_nextName` — counting up goes on to a higher number.
* `freshName_not_mem_taken` — a name that is chosen is not taken.
* `exists_freshName_eq_iterate` — the names before it are.
* `Argument.nodup_paramNames_unique` — arguments get names of their own.
* `Argument.unique_takesNames` — each argument takes the first name in line that is left.
-/

namespace ApiLowering

/-! ## Counting up -/

namespace NameNumber

/-- The digits at the end of a name. -/
def digits (name : String) : List Char := (name.toList.reverse.takeWhile Char.isDigit).reverse

/-- The place of a name among those that are found by counting up: its number, after the name
without one. -/
def rank (name : String) : Nat :=
  if (digits name).isEmpty then 0 else Number.digitsValue (digits name) + 1

lemma digits_append_two (name : String) : digits (name ++ "2") = digits name ++ ['2'] := by
  rw [digits, digits, String.toList_append, List.reverse_append]
  change (List.takeWhile Char.isDigit ('2' :: name.toList.reverse)).reverse = _
  rw [List.takeWhile_cons_of_pos (by decide), List.reverse_cons]

lemma digits_append_toString (name : String) (n : Nat) :
    digits (Text.trimEndWhere Char.isDigit name ++ toString n) = (toString n).toList := by
  have hdigits : ∀ c ∈ (toString n).toList.reverse, c.isDigit = true := fun c hc =>
    Number.isDigit_of_mem_toString (List.mem_reverse.1 hc)
  have hnone : (name.toList.reverse.dropWhile Char.isDigit).takeWhile Char.isDigit = [] :=
    List.takeWhile_eq_nil_iff.2 fun hlength => List.dropWhile_get_zero_not _ _ hlength
  rw [digits, String.toList_append, List.reverse_append, Text.trimEndWhere, String.toList_ofList,
    Text.dropTrailing, List.reverse_reverse, List.takeWhile_append_of_pos hdigits, hnone,
    List.append_nil, List.reverse_reverse]

lemma rank_append_two (name : String) :
    rank (name ++ "2") = 10 * Number.digitsValue (digits name) + 2 + 1 := by
  have hvalue : Number.digitsValue (digits name ++ ['2']) =
      10 * Number.digitsValue (digits name) + 2 := List.foldl_append
  rw [rank, digits_append_two, hvalue, if_neg (by simp)]

/-- Counting up goes on to a higher number. -/
theorem rank_lt_rank_nextName (name : String) : rank name < rank (nextName name) := by
  rw [nextName]
  split
  · rw [rank_append_two, rank]
    split <;> omega
  · rename_i hfew
    rw [Bool.or_eq_true, not_or] at hfew
    have hsome : ¬(digits name).isEmpty = true := hfew.1
    rw [rank, rank, digits_append_toString, Number.digitsValue_toString, if_neg hsome,
      if_neg (by simp)]
    exact Nat.lt_succ_self _

end NameNumber

/-- The first name in line comes after the names before it. -/
lemma rank_le_rank_freshName (taken : List String) (name : String) :
    NameNumber.rank name ≤ NameNumber.rank (freshName taken name) := by
  induction taken, name using freshName.induct with
  | case1 taken name hmem ih =>
    rw [freshName, if_pos hmem]
    exact (NameNumber.rank_lt_rank_nextName name).le.trans ih
  | case2 taken name hmem => rw [freshName, if_neg hmem]

/-- **A name that is chosen is not taken**: the names that were tried and left out of the list have
lower numbers. -/
theorem freshName_not_mem_taken (taken : List String) (name : String) :
    freshName taken name ∉ taken := by
  induction taken, name using freshName.induct with
  | case1 taken name hmem ih =>
    rw [freshName, if_pos hmem]
    intro htaken
    have hne : freshName (taken.erase name) (nextName name) ≠ name := by
      intro heq
      have hle := rank_le_rank_freshName (taken.erase name) (nextName name)
      rw [heq] at hle
      exact absurd (NameNumber.rank_lt_rank_nextName name) (Nat.not_lt.2 hle)
    exact ih ((List.mem_erase_of_ne hne).2 htaken)
  | case2 taken name hmem => rwa [freshName, if_neg hmem]

/-- A name that is chosen is the first in line that is not taken, and as many names at most are
passed over as there are taken ones. -/
lemma exists_freshName_eq_iterate (taken : List String) (name : String) :
    ∃ n ≤ taken.length, freshName taken name = nextName^[n] name ∧
      ∀ m < n, nextName^[m] name ∈ taken := by
  induction taken, name using freshName.induct with
  | case1 taken name hmem ih =>
    obtain ⟨n, hn, hname, htaken⟩ := ih
    have hlength := List.length_erase_of_mem hmem
    have hpos := List.length_pos_of_mem hmem
    refine ⟨n + 1, by omega, ?_, ?_⟩
    · rw [freshName, if_pos hmem, hname, Function.iterate_succ_apply]
    · rintro (_ | m) hm
      · exact hmem
      · rw [Function.iterate_succ_apply]
        exact List.mem_of_mem_erase (htaken m (Nat.lt_of_succ_lt_succ hm))
  | case2 taken name hmem =>
    exact ⟨0, Nat.zero_le _, freshName_of_not_mem hmem, fun m hm => (Nat.not_lt_zero m hm).elim⟩

/-- A name is kept exactly if it is not taken. -/
lemma freshName_eq_self_iff {taken : List String} {name : String} :
    freshName taken name = name ↔ name ∉ taken :=
  ⟨fun h => h ▸ freshName_not_mem_taken taken name, freshName_of_not_mem⟩

/-! ## The names of arguments -/

namespace Argument

lemma nodup_paramNames_uniqueFrom (taken : List String) (args : List Argument) :
    ((uniqueFrom taken args).map (·.paramName)).Nodup ∧
      ∀ name ∈ (uniqueFrom taken args).map (·.paramName), name ∉ taken := by
  induction args generalizing taken with
  | nil => exact ⟨List.nodup_nil, fun _ h => (List.not_mem_nil h).elim⟩
  | cons a rest ih =>
    obtain ⟨hnodup, hfresh⟩ := ih (freshName taken a.paramName :: taken)
    rw [uniqueFrom, List.map_cons]
    refine ⟨List.nodup_cons.2 ⟨fun hmem => hfresh _ hmem List.mem_cons_self, hnodup⟩, ?_⟩
    rintro name (_ | ⟨_, hname⟩)
    · exact freshName_not_mem_taken taken a.paramName
    · exact fun htaken => hfresh name hname (List.mem_cons_of_mem _ htaken)

/-- **Arguments get names of their own.** -/
theorem nodup_paramNames_unique (args : List Argument) :
    ((unique args).map (·.paramName)).Nodup :=
  (nodup_paramNames_uniqueFrom [] args).1

/-- An argument becomes another one by taking the first name in line that is none of the earlier
names. -/
structure TakesName (earlier : List String) (a b : Argument) : Prop where
  /-- All but the name stays. -/
  others : b = { a with paramName := b.paramName }
  /-- The name is counted up as long as it is an earlier one. -/
  counted : ∃ n ≤ earlier.length, b.paramName = nextName^[n] a.paramName ∧
    ∀ m < n, nextName^[m] a.paramName ∈ earlier
  free : b.paramName ∉ earlier
  kept : b.paramName = a.paramName ↔ a.paramName ∉ earlier

lemma takesName_freshName (earlier : List String) (a : Argument) :
    TakesName earlier a { a with paramName := freshName earlier a.paramName } where
  others := rfl
  counted := exists_freshName_eq_iterate earlier a.paramName
  free := freshName_not_mem_taken earlier a.paramName
  kept := freshName_eq_self_iff

/-- The order of earlier names does not matter. -/
lemma TakesName.perm {earlier earlier' : List String} {a b : Argument} (h : TakesName earlier a b)
    (hperm : earlier.Perm earlier') : TakesName earlier' a b where
  others := h.others
  counted := by simpa only [hperm.length_eq, hperm.mem_iff] using h.counted
  free := by simpa only [hperm.mem_iff] using h.free
  kept := by simpa only [hperm.mem_iff] using h.kept

lemma takesName_getElem_uniqueFrom (taken : List String) (args : List Argument) (i : ℕ)
    (ha : i < args.length) (hb : i < (uniqueFrom taken args).length) :
    TakesName (((uniqueFrom taken args).take i).map (·.paramName) ++ taken) args[i]
      (uniqueFrom taken args)[i] := by
  induction args generalizing taken i with
  | nil => exact absurd ha (Nat.not_lt_zero i)
  | cons a rest ih =>
    cases i with
    | zero => exact takesName_freshName taken a
    | succ i =>
      have hrest := ih (freshName taken a.paramName :: taken) i (Nat.lt_of_succ_lt_succ ha)
        (Nat.lt_of_succ_lt_succ hb)
      exact hrest.perm List.perm_middle

/-- **Each argument takes the first name in line that is left.** The arguments are as many as
before, in their order and alike but for their names; these are all different, and an argument keeps
its own exactly if no argument before it has come to have this name. -/
theorem unique_takesNames (args : List Argument) :
    (unique args).length = args.length ∧ ((unique args).map (·.paramName)).Nodup ∧
      ∀ i : Fin args.length, TakesName (((unique args).take i).map (·.paramName)) (args.get i)
        ((unique args).get (i.cast (length_unique args).symm)) := by
  refine ⟨length_unique args, nodup_paramNames_unique args, fun i => ?_⟩
  have h := takesName_getElem_uniqueFrom [] args i i.isLt ((length_unique args).symm ▸ i.isLt)
  rwa [List.append_nil] at h

end Argument

end ApiLowering
