import ApiLowering.Text.Basic
import ApiLowering.Fault

/-!
# References

A place of a document holds either a thing or a reference to a component of that kind. A reference
to a component names its section and its key.

## Main definitions

* `Referable` — a thing or a reference.
* `Reference.toSchema` — the reference to a component schema.
* `Reference.lastName` — the last name of a reference.
* `Reference.keyIn` — the key of a reference into a section.
-/

namespace ApiLowering

/-- A thing, or a reference to one. -/
inductive Referable (α : Type) where
  | ref (path : String)
  | inline (value : α)
deriving Repr, Inhabited

namespace Referable

variable {α : Type}

/-- The path of a reference. -/
def path? : Referable α → Option String
  | ref path => some path
  | inline _ => none

/-- The thing itself, if it is here. -/
def inline? : Referable α → Option α
  | ref _ => none
  | inline value => some value

/-- Whether this is a reference. -/
def isRef (r : Referable α) : Bool := r.path?.isSome

/-- Applies a function to a thing that is here, and to no reference. -/
def mapInline {β : Type} (f : α → β) : Referable α → Referable β
  | ref path => ref path
  | inline value => inline (f value)

end Referable

namespace Reference

/-- What every reference to a component begins with. -/
def componentsPath : String := "#/components/"

/-- What every reference to a component schema begins with. -/
def schemasPath : String := "#/components/schemas/"

/-- The reference to the component schema under a key. -/
def toSchema (key : String) : String := schemasPath ++ key

/-- The last name of a reference, whatever its section. -/
def lastName (path : String) : String := Text.afterLast '/' path

/-- The key of a reference to a component of a section. The key is all that follows the section, so
it may contain slashes. -/
def keyIn (wanted path : String) : Except Fault String :=
  match (Text.stripStart? componentsPath path).bind (Text.splitOnce? '/') with
  | none => .error (.unresolved path)
  | some (found, key) =>
    if found = wanted then .ok key
    else .error (.unresolved s!"expected section '{wanted}', got '{found}' in {path}")

end Reference

end ApiLowering
