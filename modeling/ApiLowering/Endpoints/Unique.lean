import ApiLowering.Json.Number
import ApiLowering.Program.Argument

/-!
# Unique names of arguments

Arguments of one name are told apart by numbers: `id`, `id2`, `id3`.

On a collision the name that was tried is taken out of the list of names, and the next one is looked
for in what is left. So the search ends, and no bound has to be given.

## Main definitions

* `nextName` — the name after another.
* `freshName` — the first name in line that is not taken.
* `Argument.unique` — arguments with names of their own.

## Main results

* `freshName_of_not_mem` — a name that is not taken stays.
* `Argument.length_unique` — no argument is lost.
-/

namespace ApiLowering

/-- The name after another: the number at its end goes up by one. A name without a number, or with
one beyond 64 bits, takes a two. -/
def nextName (name : String) : String :=
  let digits := (name.toList.reverse.takeWhile Char.isDigit).reverse
  let n := Number.digitsValue digits
  if digits.isEmpty || n ≥ Nat.pow 2 64 then name ++ "2"
  else Text.trimEndWhere Char.isDigit name ++ toString (n + 1)

/-- The first name in line that is not taken. -/
def freshName (taken : List String) (name : String) : String :=
  if name ∈ taken then freshName (taken.erase name) (nextName name) else name
termination_by taken.length
decreasing_by
  rename_i h
  have := List.length_erase_of_mem h
  have := List.length_pos_of_mem h
  omega

/-- A name that is not taken stays. -/
theorem freshName_of_not_mem {taken : List String} {name : String} (h : name ∉ taken) :
    freshName taken name = name := by
  rw [freshName, if_neg h]

namespace Argument

/-- Arguments with names of their own that are not taken either. -/
def uniqueFrom (taken : List String) : List Argument → List Argument
  | [] => []
  | a :: rest =>
    let paramName := freshName taken a.paramName
    { a with paramName } :: uniqueFrom (paramName :: taken) rest

/-- Arguments with names of their own. -/
def unique (args : List Argument) : List Argument := uniqueFrom [] args

theorem length_uniqueFrom (taken : List String) (args : List Argument) :
    (uniqueFrom taken args).length = args.length := by
  induction args generalizing taken with
  | nil => rfl
  | cons a rest ih => simp [uniqueFrom, ih]

/-- No argument is lost. -/
theorem length_unique (args : List Argument) : (unique args).length = args.length :=
  length_uniqueFrom [] args

end Argument

end ApiLowering
