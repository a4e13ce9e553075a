/-!
# Faults

The causes for which lowering stops.

## Main definitions

* `Fault` — the causes.
* `Fault.message` — their wording.
-/

namespace ApiLowering

/-- A cause for which lowering stops. -/
inductive Fault where
  /-- An option has a value that it does not take. -/
  | configuration (option value : String)
  /-- A reference leads nowhere. -/
  | unresolved (what : String)
  /-- A schema has no type. -/
  | untyped (context detail : String)
  /-- A name has no identifier. -/
  | unnameable (name : String)
  /-- The parts of the document contradict each other. -/
  | inconsistent (what : String)
deriving Repr, DecidableEq

namespace Fault

/-- The wording of a fault. -/
def message : Fault → String
  | configuration option value => s!"invalid value '{value}' for option '{option}'"
  | unresolved what => s!"unresolvable reference: {what}"
  | untyped context detail => s!"cannot resolve a type for {context}: {detail}"
  | unnameable name => s!"cannot derive a legal identifier from '{name}'"
  | inconsistent what => s!"inconsistent lowering state: {what}"

end Fault

end ApiLowering
