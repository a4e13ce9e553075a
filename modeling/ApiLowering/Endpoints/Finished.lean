import ApiLowering.Dialect.Basic
import ApiLowering.Endpoints.Mapped
import ApiLowering.Models.Finished

/-!
# Finished endpoints

The returned type is wrapped in a response where its status or its headers have to be stated, and
then in a publisher if the program is reactive. The last two stages of an endpoint annotate its
types and make its examples.

## Main definitions

* `Setup.statesResponse` — whether a response has to be stated.
* `Setup.wrapEndpoint` — the wrapped endpoint.
* `Setup.annotateEndpoint` — the endpoint with annotated types.
* `Setup.freezeEndpoint` — the endpoint with examples.
* `Setup.finishEndpoints` — endpoints through all their stages.
-/

namespace ApiLowering

/-! ## Wrappers -/

namespace Setup

variable (setup : Setup)

/-- Whether the method returns a response: always, or where there is another success than the usual
one or a header is left. -/
def statesResponse (e : Endpoint) : Bool :=
  setup.options.generateHttpResponseAlways ||
    (setup.options.generateHttpResponseWhereRequired &&
      (e.responses.any (·.isOtherSuccess) || !e.responseHeaders.isEmpty))

/-- The endpoint that returns a response, if it has to. -/
def inResponse (e : Endpoint) : Lowering Endpoint :=
  if setup.statesResponse e then setup.envelop e Dialect.httpResponse false else return e

/-- Whether the items of an array are published one by one. -/
def streams (e : Endpoint) : Bool :=
  setup.options.fluxForArrays && e.returnProperty.any (·.type.isArray)

/-- The endpoint that returns a publisher, if the program is reactive. -/
def inPublisher (e : Endpoint) : Lowering Endpoint := do
  if setup.options.reactive then
    if setup.streams e then
      let e ← setup.envelop e Dialect.flux true
      return { e with facets.isReturnFlux := true }
    else setup.envelop e Dialect.mono false
  else return e

/-- The wrapped endpoint. -/
def wrapEndpoint (e : Endpoint) : Lowering Endpoint := do
  setup.inPublisher (← setup.inResponse (← e.advance .bodyMapped .wrapped))

end Setup

/-! ## Annotations -/

/-- Whether an argument is a model of one of some classes, or contains one at its bottom. -/
def Argument.refersToAny (a : Argument) (classes : List String) : Bool :=
  match a.items with
  | some items => items.refersToAny classes
  | none => a.type.isModel && classes.contains a.type.dataType

/-- The argument of a day or a moment with its pattern as its format. -/
def Argument.withFormat (a : Argument) : Argument :=
  if (a.type.flags.isDate || a.type.flags.isDateTime) && a.constraints.pattern.isSome then
    { a with constraints.pattern := none, formatPattern := a.constraints.pattern }
  else a

namespace Setup

variable (setup : Setup)

/-- The argument with its declared types, its validation and its deprecation. -/
def annotateArgument (deprecated : List String) (a : Argument) : Argument :=
  let a := (a.annotated setup.annotator).withFormat
  { a with
    isDeprecated := a.isDeprecated || a.refersToAny deprecated
    facets.withValid := setup.options.beanValidation && !a.type.isContainer && a.type.isModel }

/-- The endpoint with annotated types. -/
def annotateEndpoint (deprecated : List String) (e : Endpoint) : Lowering Endpoint := do
  let e ← e.advance .wrapped .annotationsApplied
  let (onOperation, vendorExtensions) ←
    Lowering.takeAnnotations ExtraAnnotations.operationKey e.vendorExtensions
  let annotated : Endpoint := { e with
    allParams := e.allParams.map (setup.annotateArgument deprecated)
    implicitHeadersParams := e.implicitHeadersParams.map (setup.annotateArgument deprecated)
    returnProperty := e.returnProperty.map (·.annotated setup.annotator)
    vendorExtensions
    facets.annotations.onOperation := onOperation
    facets.swagger := setup.swagger }
  return annotated.projected

/-! ## Examples -/

/-- The argument with its examples. -/
def exemplify (examples : Examples) (a : Argument) : Argument :=
  let source := ExampleSource.ofArgument a
  { a with
    sample := some (examples.expression source false)
    facets.groovyExample := some (examples.expression source true) }

/-- The source of the example of a returned type. -/
def returnSource (models : List Model) (e : Endpoint) (returnType : String) : ExampleSource :=
  match models.find? (·.classname == returnType) with
  | some m => {
      dataType := m.classname
      defaultValue := m.defaultValue
      isModel := true
      allowableValues := m.enumConstants.map (·.rawValue) }
  | none => { dataType := returnType, itemsType := e.returnBaseType }

/-- The endpoint with the example of its returned type, unless the options leave it out. -/
def exemplifyReturn (models : List Model) (examples : Examples) (e : Endpoint) : Endpoint :=
  match e.facets.bareReturnType with
  | none => e
  | some returnType =>
    if setup.options.skipOperationExample then e
    else
      let source := returnSource models e returnType
      { e with
        facets.sample := some (examples.expression source false)
        facets.groovyExample := some (examples.expression source true) }

/-- The endpoint with examples. -/
def freezeEndpoint (models : List Model) (e : Endpoint) : Lowering Endpoint := do
  let e ← e.advance .annotationsApplied .frozen
  let examples ← setup.examples (constructorProperties models)
  let e := setup.exemplifyReturn models examples { e with
    allParams := e.allParams.map (exemplify examples)
    implicitHeadersParams := e.implicitHeadersParams.map (exemplify examples) }
  return e.projected

/-! ## All stages -/

/-- An endpoint through all its stages. The models are finished. -/
def finishEndpoint (models : List Model) (e : Endpoint) : Lowering Endpoint := do
  let e ← setup.normalizeEndpoint e
  let e ← setup.mapArguments e
  let e ← setup.mapReturn e
  let e ← setup.wrapEndpoint e
  let e ← setup.annotateEndpoint (deprecatedClasses models) e
  setup.freezeEndpoint models e

/-- Endpoints through all their stages. -/
def finishEndpoints (models : List Model) (es : List Endpoint) : Lowering (List Endpoint) :=
  es.mapM (setup.finishEndpoint models)

end Setup

end ApiLowering
