import ApiLowering.Sorting

/-!
# Insertion-ordered tables

A table maps text keys to values and remembers the order in which its keys were first entered.
Every keyed collection of a document, of the options and of the lowered program is a table, because
the order of entry shows in the output.

## Main definitions

* `Table` — a list of key-value pairs, read as a map by its first match.
* `Table.insert` — overwrites in place, or appends a new key at the end.
* `Table.same` — equality up to the order of the keys.

## Main results

* `Table.find?_insert_self`, `Table.find?_insert_of_ne` — an insertion is read back, and disturbs
  no other key.
* `Table.keys_insert_of_mem`, `Table.keys_insert_of_not_mem` — a known key keeps its place, a new
  key goes to the end.
-/

namespace ApiLowering

/-- A map with text keys that remembers the order of entry. -/
structure Table (α : Type) where
  /-- The entries, in order of entry. -/
  entries : List (String × α)
deriving Repr, DecidableEq, Inhabited

namespace Table

variable {α β : Type}

/-! ## Reading -/

/-- The table without entries. -/
def empty : Table α := ⟨[]⟩

instance : EmptyCollection (Table α) := ⟨empty⟩

/-- Whether the table has no entry. -/
def isEmpty (t : Table α) : Bool := t.entries.isEmpty

/-- The number of entries. -/
def size (t : Table α) : Nat := t.entries.length

/-- The keys, in order. -/
def keys (t : Table α) : List String := t.entries.map Prod.fst

/-- The values, in the order of their keys. -/
def values (t : Table α) : List α := t.entries.map Prod.snd

/-- The first entry of a list of pairs under a key. -/
def lookup (key : String) : List (String × α) → Option α
  | [] => none
  | (k, v) :: rest => if k = key then some v else lookup key rest

/-- The value under a key. -/
def find? (t : Table α) (key : String) : Option α := lookup key t.entries

/-- Whether a key is present. -/
def contains (t : Table α) (key : String) : Bool := (t.find? key).isSome

/-! ## Writing -/

/-- Overwrites the first entry under a key, or appends one. -/
def put (key : String) (value : α) : List (String × α) → List (String × α)
  | [] => [(key, value)]
  | (k, v) :: rest => if k = key then (k, value) :: rest else (k, v) :: put key value rest

/-- Enters a value: a known key keeps its place, a new one goes to the end. -/
def insert (t : Table α) (key : String) (value : α) : Table α := ⟨put key value t.entries⟩

/-- Enters a value only under a new key. -/
def insertNew (t : Table α) (key : String) (value : α) : Table α :=
  if t.contains key then t else t.insert key value

/-- Removes a key; the others keep their order. -/
def erase (t : Table α) (key : String) : Table α := ⟨t.entries.filter fun e => e.1 != key⟩

/-- Enters the entries of a list from left to right. -/
def insertAll (t : Table α) (es : List (String × α)) : Table α :=
  es.foldl (fun acc e => acc.insert e.1 e.2) t

/-- The table of a list of pairs; of several values under one key the last one stays. -/
def ofList (es : List (String × α)) : Table α := insertAll empty es

/-- Applies a function to every value. -/
def map (f : α → β) (t : Table α) : Table β := ⟨t.entries.map fun e => (e.1, f e.2)⟩

/-- Keeps the entries that satisfy a test. -/
def filter (p : String → α → Bool) (t : Table α) : Table α := ⟨t.entries.filter fun e => p e.1 e.2⟩

/-- The entries in the order of their keys, character by character. -/
def sortByKey (t : Table α) : Table α := ⟨sortBy (fun a b => decide (a.1 ≤ b.1)) t.entries⟩

/-- Equality up to order: as many entries, and every entry of the first is in the second. -/
def same (eq : α → α → Bool) (s t : Table α) : Bool :=
  s.size == t.size && s.entries.all fun e =>
    match t.find? e.1 with
    | some v => eq e.2 v
    | none => false

/-! ## Laws of lookup and insertion -/

theorem lookup_put_self (key : String) (value : α) (es : List (String × α)) :
    lookup key (put key value es) = some value := by
  induction es with
  | nil => simp [put, lookup]
  | cons e rest ih =>
    obtain ⟨k, v⟩ := e
    by_cases h : k = key <;> simp [put, lookup, h, ih]

theorem lookup_put_of_ne {key other : String} (value : α) (es : List (String × α))
    (h : other ≠ key) : lookup other (put key value es) = lookup other es := by
  induction es with
  | nil => simp [put, lookup, Ne.symm h]
  | cons e rest ih =>
    obtain ⟨k, v⟩ := e
    by_cases hk : k = key
    · subst hk
      simp [put, lookup, Ne.symm h]
    · simp [put, lookup, hk, ih]

/-- What was entered is read back. -/
@[simp] theorem find?_insert_self (t : Table α) (key : String) (value : α) :
    (t.insert key value).find? key = some value :=
  lookup_put_self key value t.entries

/-- Entering a value leaves the other keys alone. -/
theorem find?_insert_of_ne (t : Table α) {key other : String} (value : α) (h : other ≠ key) :
    (t.insert key value).find? other = t.find? other :=
  lookup_put_of_ne value t.entries h

theorem keys_put_of_mem {key : String} (value : α) {es : List (String × α)}
    (h : key ∈ es.map Prod.fst) : (put key value es).map Prod.fst = es.map Prod.fst := by
  induction es with
  | nil => simp at h
  | cons e rest ih =>
    obtain ⟨k, v⟩ := e
    by_cases hk : k = key
    · simp [put, hk]
    · have : key ∈ rest.map Prod.fst := by
        simp only [List.map_cons, List.mem_cons] at h
        exact h.resolve_left (Ne.symm hk)
      simp [put, hk, ih this]

theorem keys_put_of_not_mem {key : String} (value : α) {es : List (String × α)}
    (h : key ∉ es.map Prod.fst) : (put key value es).map Prod.fst = es.map Prod.fst ++ [key] := by
  induction es with
  | nil => simp [put]
  | cons e rest ih =>
    obtain ⟨k, v⟩ := e
    simp only [List.map_cons, List.mem_cons, not_or] at h
    simp [put, Ne.symm h.1, ih h.2]

/-- A known key keeps its place. -/
theorem keys_insert_of_mem (t : Table α) {key : String} (value : α) (h : key ∈ t.keys) :
    (t.insert key value).keys = t.keys :=
  keys_put_of_mem value h

/-- A new key goes to the end. -/
theorem keys_insert_of_not_mem (t : Table α) {key : String} (value : α) (h : key ∉ t.keys) :
    (t.insert key value).keys = t.keys ++ [key] :=
  keys_put_of_not_mem value h

end Table

end ApiLowering
