import ApiLowering.Json.Number

/-!
# Free-form values

Defaults, examples, enumerated values and extensions are values of no fixed shape. The members of
an object are kept in the order of their keys.

## Main definitions

* `Json` — a value.
* `Json.object` — the object of some members, sorted, the last of several under one key.
* `Json.same` — equality of values.

## Main results

* `Json.lookup_enter_self` — a member that was entered is read back.
-/

namespace ApiLowering

/-- A free-form value. -/
inductive Json where
  | null
  | bool (b : Bool)
  | number (n : Number)
  | string (s : String)
  | array (items : List Json)
  /-- The members of an object, by strictly increasing key. -/
  | members (entries : List (String × Json))
deriving Repr, Inhabited

namespace Json

/-! ## Objects -/

/-- Enters a member at the place of its key. -/
def enter (key : String) (value : Json) : List (String × Json) → List (String × Json)
  | [] => [(key, value)]
  | (k, v) :: rest =>
    if key = k then (key, value) :: rest
    else if key < k then (key, value) :: (k, v) :: rest
    else (k, v) :: enter key value rest

/-- The object with the given members; the last of several members under one key stays. -/
def object (entries : List (String × Json)) : Json :=
  .members (entries.foldl (fun acc e => enter e.1 e.2 acc) [])

/-- The value under a key in a list of members. -/
def lookup (key : String) : List (String × Json) → Option Json
  | [] => none
  | (k, v) :: rest => if k = key then some v else lookup key rest

theorem lookup_enter_self (key : String) (value : Json) (es : List (String × Json)) :
    lookup key (enter key value es) = some value := by
  induction es with
  | nil => simp [enter, lookup]
  | cons e rest ih =>
    obtain ⟨k, v⟩ := e
    simp only [enter]
    split
    · simp [lookup]
    · rename_i hk
      split
      · simp [lookup]
      · simp [lookup, Ne.symm hk, ih]

/-- The member of an object under a key. -/
def get? (v : Json) (key : String) : Option Json :=
  match v with
  | .members es => lookup key es
  | _ => none

/-! ## Views -/

/-- The text of a string. -/
def string? : Json → Option String
  | .string s => some s
  | _ => none

/-- The truth value of a boolean. -/
def bool? : Json → Option Bool
  | .bool b => some b
  | _ => none

/-- The items of an array. -/
def items? : Json → Option (List Json)
  | .array xs => some xs
  | _ => none

/-- Whether the value is null. -/
def isNull : Json → Bool
  | .null => true
  | _ => false

/-- A whole number as a value. -/
def ofNat (n : Nat) : Json := .number (.whole n)

/-- A whole number as a value. -/
def ofInt (n : Int) : Json := .number (.whole n)

/-- A text, or null. -/
def ofString? : Option String → Json
  | some s => .string s
  | none => .null

/-- A list of texts. -/
def ofStrings (ss : List String) : Json := .array (ss.map .string)

/-! ## Equality -/

mutual

/-- Equality of values: numbers by `Number.same`, everything else by shape. -/
def same : Json → Json → Bool
  | .null, .null => true
  | .bool a, .bool b => a == b
  | .number a, .number b => a.same b
  | .string a, .string b => a == b
  | .array xs, .array ys => sameItems xs ys
  | .members xs, .members ys => sameMembers xs ys
  | _, _ => false

/-- Equality of arrays, item by item. -/
def sameItems : List Json → List Json → Bool
  | [], [] => true
  | x :: xs, y :: ys => same x y && sameItems xs ys
  | _, _ => false

/-- Equality of the members of objects, one by one. -/
def sameMembers : List (String × Json) → List (String × Json) → Bool
  | [], [] => true
  | x :: xs, y :: ys => sameMember x y && sameMembers xs ys
  | _, _ => false

/-- Equality of two members. -/
def sameMember : String × Json → String × Json → Bool
  | (k, v), (l, w) => k == l && same v w

end

instance : BEq Json := ⟨same⟩

end Json

end ApiLowering
