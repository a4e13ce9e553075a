import ApiLowering.Program.Examples
import ApiLowering.Program.Model
import ApiLowering.Run.ExtraAnnotations

/-!
# Finished models

A model takes its serial number, its annotations and those of its properties, marks the properties
of deprecated classes, and makes examples for scripts. The lists of properties hold copies of each
other, so every copy is finished.

## Main definitions

* `Setup.examples` — what examples of models are made with.
* `Model.mapProperties` — changes the properties in every list.
* `Setup.finishModels` — the models with all that templates need.
-/

namespace ApiLowering

/-- The classes that are deprecated. -/
def deprecatedClasses (models : List Model) : List String :=
  (models.filter (·.deprecated)).map (·.classname)

/-- The properties that the constructors of models take, by class name. -/
def constructorProperties (models : List Model) : Table (List Property) :=
  .ofList (models.map fun m => (m.classname, m.requiredVars))

namespace Model

/-- Changes the properties in every list, one list after the other. -/
def mapProperties (f : Property → Lowering Property) (m : Model) : Lowering Model := do
  return { m with
    vars := ← m.vars.mapM f
    allVars := ← m.allVars.mapM f
    parentVars := ← m.parentVars.mapM f
    requiredVars := ← m.requiredVars.mapM f
    optionalVars := ← m.optionalVars.mapM f
    readOnlyVars := ← m.readOnlyVars.mapM f
    readWriteVars := ← m.readWriteVars.mapM f
    requiredVarsWithoutDiscriminator := ← m.requiredVarsWithoutDiscriminator.mapM f
    requiredParentVarsWithoutDiscriminator := ← m.requiredParentVarsWithoutDiscriminator.mapM f
    requiredArgs := ← m.requiredArgs.mapM f
    parentRequiredArgs := ← m.parentRequiredArgs.mapM f }

end Model

namespace Setup

variable (setup : Setup)

/-- What examples are made with, as far as types are imported now. -/
def examples (constructors : Table (List Property)) : Lowering Examples := do
  let session ← get
  return {
    dialect := setup.dialect
    qualify := session.qualifiedName setup
    constructors
    withArguments := setup.options.requiredPropertiesInConstructor }

/-- Whether tests are scripts. -/
def testsAreScripts : Bool := setup.options.testFramework == .spock

/-- The property with its annotations, its deprecation and its example. -/
def finishProperty (deprecated : List String) (examples : Examples) (p : Property) :
    Lowering Property := do
  let (onField, extensions) ← Lowering.takeAnnotations ExtraAnnotations.fieldKey p.vendorExtensions
  let (onSetter, extensions) ← Lowering.takeAnnotations ExtraAnnotations.setterKey extensions
  let p := { p with
    vendorExtensions := extensions
    deprecated := p.deprecated || p.refersToAny deprecated
    facets.annotations.onField := onField
    facets.annotations.onSetter := onSetter }
  if setup.testsAreScripts then
    return { p with facets.groovyExample := some (examples.expression (.ofProperty p) true) }
  else return p

/-- The model with its serial number, its annotations and finished properties. -/
def finishModel (deprecated : List String) (examples : Examples) (m : Model) : Lowering Model := do
  let serialId ← Lowering.takeSerial
  let (onClass, vendorExtensions) ←
    Lowering.takeAnnotations ExtraAnnotations.classKey m.vendorExtensions
  let m := { m with
    vendorExtensions
    facets.serialId := serialId
    facets.annotations.onClass := onClass }
  m.mapProperties (setup.finishProperty deprecated examples)

/-- The models with all that templates need. -/
def finishModels (models : List Model) : Lowering (List Model) := do
  let examples ← setup.examples (constructorProperties models)
  models.mapM (setup.finishModel (deprecatedClasses models) examples)

end Setup

end ApiLowering
