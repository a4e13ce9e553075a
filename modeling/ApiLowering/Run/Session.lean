import ApiLowering.Run.Setup

/-!
# Runs

Lowering passes share a session: the packages that are imported, the warnings, and the names that
have been chosen.

## Main definitions

* `Session` — what passes leave behind for one another.
* `Lowering` — a step of a run, which may fail.
* `Setup.importType`, `Setup.className` — the steps that all passes share.

## Main results

* `Lowering.attempt_ok`, `Lowering.attempt_error` — a failed attempt leaves the session alone.
-/

namespace ApiLowering

/-- What passes leave behind for one another. -/
structure Session where
  /-- The packages of types. -/
  importMapping : Table String
  /-- The subjects that have been warned of. -/
  warned : List String := []
  /-- The warnings, the newest first. -/
  warningLog : List String := []
  /-- The last serial number. -/
  serial : Int := 0
  /-- The class names of component schemas. -/
  classNames : Table String := {}
  /-- The arguments of constructors, by class name. -/
  constructors : Table (List String) := {}
deriving Inhabited

/-- A step of a run. -/
abbrev Lowering := StateT Session (Except Fault)

namespace Session

/-- The session at the start of a run. -/
def start (setup : Setup) : Session := { importMapping := setup.importMapping }

/-- The warnings, in order. -/
def warnings (s : Session) : List String := s.warningLog.reverse

/-- Adds a warning. -/
def warn (s : Session) (message : String) : Session :=
  { s with warningLog := message :: s.warningLog }

/-- Adds a warning if there was none of this subject. -/
def warnOnce (s : Session) (subject message : String) : Session :=
  if s.warned.contains subject then s
  else { s.warn message with warned := subject :: s.warned }

/-- The qualified name of a class: its package is that of an import, or that of the models. -/
def qualifiedName (s : Session) (setup : Setup) (simple : String) : String :=
  match s.importMapping.find? simple with
  | some qualified => qualified
  | none => setup.options.modelPackage ++ "." ++ simple

end Session

namespace Lowering

/-- Stops the run. -/
def fail {α : Type} (f : Fault) : Lowering α := throw f

/-- Adds a warning. -/
def warn (message : String) : Lowering Unit := modify (·.warn message)

/-- Adds a warning if there was none of this subject. -/
def warnOnce (subject message : String) : Lowering Unit := modify (·.warnOnce subject message)

/-- The outcome of a step that may fail without stopping the run. A failed step leaves the session
as it was. -/
def attempt {α : Type} (step : Lowering α) : Lowering (Except Fault α) := fun s =>
  match step s with
  | .ok (a, s') => .ok (.ok a, s')
  | .error f => .ok (.error f, s)

theorem attempt_ok {α : Type} {step : Lowering α} {s s' : Session} {a : α}
    (h : step s = .ok (a, s')) : attempt step s = .ok (.ok a, s') := by
  simp [attempt, h]

theorem attempt_error {α : Type} {step : Lowering α} {s : Session} {f : Fault}
    (h : step s = .error f) : attempt step s = .ok (.error f, s) := by
  simp [attempt, h]

/-- The next serial number. -/
def takeSerial : Lowering Int := do
  let n := nextSerial (← get).serial
  modify fun s => { s with serial := n }
  return n

/-- Keeps the arguments of a constructor. -/
def recordConstructor (classname : String) (args : List String) : Lowering Unit :=
  modify fun s => { s with constructors := s.constructors.insert classname args }

end Lowering

namespace Setup

variable (setup : Setup)

/-- The class name for a component schema. It is chosen once in a run. -/
def className (key : String) : Lowering String := do
  match (← get).classNames.find? key with
  | some name => return name
  | none =>
    let (name, warning) ← setup.names.className key
    if let some message := warning then
      Lowering.warn message
    modify fun s => { s with classNames := s.classNames.insert key name }
    return name

/-- The simple name of a type, which is imported into a set if it has to be. The package of a
qualified type is kept, unless one is known already. -/
def importType (typeName : String) (imports : NameSet) : Lowering (String × NameSet) := do
  match TypeName.split? typeName with
  | some (simple, _) =>
    modify fun s => { s with importMapping := s.importMapping.insertNew simple typeName }
    return (simple, imports.insert simple)
  | none =>
    if setup.needsImport typeName then return (typeName, imports.insert typeName)
    else return (typeName, imports)

end Setup

end ApiLowering
