import ApiLowering.Table
import ApiLowering.Text.Basic

/-!
# Settings of a run

## Main definitions

* `Settings` — the switches that reach beyond one pass.
* `ReproducibleMode` — the switch for reproducible output, and the guards that restore it.
* `nextSerial` — the reproducible serial numbers.
-/

namespace ApiLowering

/-- The switches that reach beyond one pass. -/
structure Settings where
  /-- Whether an operation is divided by the contents of its body. -/
  divideOperationsByContentType : Bool := false
deriving Repr, DecidableEq, Inhabited

/-- The settings of a table of switches. -/
def Settings.ofSwitches (switches : Table String) : Settings where
  divideOperationsByContentType :=
    (switches.find? "DIVIDE_OPERATIONS_BY_CONTENT_TYPE").any fun v =>
      Text.equalsIgnoringCase v "true"

/-! ## Reproducible output -/

/-- The switch that makes all output reproducible. A guard turns it on for as long as it is held. -/
structure ReproducibleMode where
  isOn : Bool := true
  /-- What the guards that are held found, the newest first. -/
  guards : List Bool := []
deriving Repr, DecidableEq, Inhabited

namespace ReproducibleMode

/-- Turns the switch on. -/
def enable (m : ReproducibleMode) : ReproducibleMode := { m with isOn := true }

/-- Turns the switch off. -/
def disable (m : ReproducibleMode) : ReproducibleMode := { m with isOn := false }

/-- Takes a guard. -/
def guard (m : ReproducibleMode) : ReproducibleMode := ⟨true, m.isOn :: m.guards⟩

/-- Drops the newest guard, if there is one, and restores what it found. -/
def drop (m : ReproducibleMode) : ReproducibleMode :=
  match m.guards with
  | [] => m
  | found :: rest => ⟨found, rest⟩

/-- A guard that is taken and dropped changes nothing. -/
theorem drop_guard (m : ReproducibleMode) : m.guard.drop = m := rfl

end ReproducibleMode

/-- The serial number after another. -/
def nextSerial (counter : Int) : Int := counter + 1

end ApiLowering
