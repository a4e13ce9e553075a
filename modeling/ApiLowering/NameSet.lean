/-!
# Sets of names

The names that a class imports form a set. It is kept in the order of the names, so that a set has
one form only.

## Main definitions

* `NameSet` — a set of names.
* `NameSet.insert`, `NameSet.union` — more names.

## Main results

* `NameSet.mem_insert` — the members of a set after an insertion.
* `NameSet.mem_insertAll`, `NameSet.mem_union` — the members after several insertions.
-/

namespace ApiLowering

/-- A set of names. -/
structure NameSet where
  /-- The members, in order. -/
  names : List String
deriving Repr, DecidableEq, Inhabited

namespace NameSet

/-- The set without members. -/
def empty : NameSet := ⟨[]⟩

instance : EmptyCollection NameSet := ⟨empty⟩

instance : Membership String NameSet := ⟨fun s name => name ∈ s.names⟩

/-- Whether a name is a member. -/
def contains (s : NameSet) (name : String) : Bool := s.names.contains name

/-- Enters a name at its place. -/
def enter (name : String) : List String → List String
  | [] => [name]
  | n :: rest =>
    if name = n then n :: rest
    else if name < n then name :: n :: rest
    else n :: enter name rest

/-- The set with one more name. -/
def insert (s : NameSet) (name : String) : NameSet := ⟨enter name s.names⟩

/-- The set with the names of a list. -/
def insertAll (s : NameSet) (names : List String) : NameSet := names.foldl insert s

/-- The names of a list as a set. -/
def ofList (names : List String) : NameSet := insertAll empty names

/-- The names of either set. -/
def union (s t : NameSet) : NameSet := s.insertAll t.names

/-- The set without a name. -/
def erase (s : NameSet) (name : String) : NameSet := ⟨s.names.filter (· != name)⟩

/-! ## Membership -/

theorem mem_enter {name other : String} {names : List String} :
    other ∈ enter name names ↔ other = name ∨ other ∈ names := by
  induction names with
  | nil => simp [enter]
  | cons n rest ih =>
    simp only [enter]
    split
    · rename_i h
      simp [h]
    · split
      · simp
      · simp [ih, or_left_comm]

theorem mem_def {s : NameSet} {name : String} : name ∈ s ↔ name ∈ s.names := Iff.rfl

/-- The members after an insertion are the new name and the old members. -/
@[simp] theorem mem_insert {s : NameSet} {name other : String} :
    other ∈ s.insert name ↔ other = name ∨ other ∈ s :=
  mem_enter

/-- The members after several insertions are the old members and the new names. -/
@[simp] theorem mem_insertAll {s : NameSet} {names : List String} {other : String} :
    other ∈ s.insertAll names ↔ other ∈ s ∨ other ∈ names := by
  induction names generalizing s with
  | nil => simp [insertAll]
  | cons n rest ih =>
    have : s.insertAll (n :: rest) = (s.insert n).insertAll rest := rfl
    rw [this, ih, mem_insert, List.mem_cons, or_assoc, or_left_comm]

/-- The members of a union are those of either set. -/
@[simp] theorem mem_union {s t : NameSet} {other : String} :
    other ∈ s.union t ↔ other ∈ s ∨ other ∈ t := by
  exact mem_insertAll

end NameSet

end ApiLowering
