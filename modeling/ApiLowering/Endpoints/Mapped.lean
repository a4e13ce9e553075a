import ApiLowering.Endpoints.Arguments
import ApiLowering.Endpoints.Normalized

/-!
# Mapped endpoints

Mappings put a type of the caller's choice in the place of arguments, and around the returned type
of responses with a header.

## Main definitions

* `ParameterMapping.claims` — whether a mapping is for an argument.
* `Setup.mapArguments` — the arguments after all mappings, with arrays in the plural.
* `Setup.envelop` — a returned type in a wrapper.
* `Setup.mapReturn` — the returned type after all mappings.
-/

namespace ApiLowering

/-! ## Arguments -/

/-- Where an argument travels; one that a mapping introduced does not. -/
def Argument.mappedLocation? (a : Argument) : Option MappedLocation :=
  if a.isBody then some .body
  else if a.isForm then some .form
  else (a.location.bind ParameterLocation.ofText?).map MappedLocation.ofParameter

/-- Whether a mapping is for an argument. -/
def ParameterMapping.claims (m : ParameterMapping) (a : Argument) : Bool :=
  a.mappedLocation?.any fun location => m.fits a.baseName location a.type.dataType

/-- Whether the name of an argument takes the plural: it is an array, of items without a name of
their own, and its name is not the one of any body. -/
def Argument.takesPlural (a : Argument) : Bool :=
  a.isBody && a.type.isArray && a.refName.isNone && !a.facets.mapped &&
    a.paramName != Resolver.defaultBodyName

/-- The argument with its name in the plural, if it takes it. -/
def Argument.pluralized (a : Argument) : Argument :=
  if a.takesPlural then { a with paramName := Text.plural a.paramName } else a

namespace Setup

variable (setup : Setup)

/-- The argument that a mapping introduces. -/
def mappedArgument (m : ParameterMapping) (mappedType : String) (imports : NameSet) :
    Lowering (Argument × NameSet) := do
  let (dataType, imports) ← setup.importType mappedType imports
  let paramName ← match m.mappedName with
    | some name => pure name
    | none => setup.names.parameterName dataType
  return ({
    paramName
    realName := paramName
    baseName := paramName
    required := true
    type := {
      dataType
      datatypeWithEnum := dataType
      baseType := dataType
      isModel := m.isValidated }
    facets := {
      mapped := true
      withValid := m.isValidated
      annotatedType := dataType
      annotatedTypeWithEnum := dataType } }, imports)

/-- The endpoint after one mapping: the arguments that it claims are gone, and if there were any,
the mapped one is the last. -/
def mapArgument (e : Endpoint) (m : ParameterMapping) : Lowering Endpoint := do
  if e.allParams.any m.claims then
    let kept := e.allParams.filter (!m.claims ·)
    match m.mappedType with
    | none => return { e with allParams := kept }
    | some mappedType => do
      let (a, imports) ← setup.mappedArgument m mappedType e.imports
      return { e with allParams := kept ++ [a], imports }
  else return e

/-- The endpoint after all mappings of arguments. -/
def mapArguments (e : Endpoint) : Lowering Endpoint := do
  let e ← e.advance .normalized .paramsMapped
  let e ← setup.options.parameterMappings.foldlM setup.mapArgument e
  let named :=
    if setup.options.plural then e.allParams.map (·.pluralized) else e.allParams
  return { e with allParams := named : Endpoint }.projected

end Setup

/-! ## Returned types -/

/-- A property in a wrapper. -/
def Property.inWrapper (inner : Property) (wrapper : String) : Property where
  name := inner.name
  baseName := inner.baseName
  type := {
    dataType := wrapper ++ "<" ++ inner.type.dataType ++ ">"
    datatypeWithEnum := wrapper ++ "<" ++ inner.type.datatypeWithEnum ++ ">"
    baseType := wrapper
    containerType := some wrapper
    isContainer := true }
  required := true
  items := some inner

namespace Setup

variable (setup : Setup)

/-- The returned property of a method that returns nothing. -/
def nothing : Property where
  name := "response"
  baseName := "response"
  type := {
    dataType := setup.dialect.voidType
    datatypeWithEnum := setup.dialect.voidType
    baseType := setup.dialect.voidType }
  isNullable := true

/-- What a wrapper is put around: a wrapper of lists takes the items of an array. -/
def wrapped (e : Endpoint) (ofItems : Bool) : Property :=
  match e.returnProperty with
  | none => setup.nothing
  | some p =>
    if ofItems && p.type.isArray then p.items.getD p else p

/-- The endpoint with its returned type in a wrapper. -/
def envelop (e : Endpoint) (wrapperType : String) (ofItems : Bool) : Lowering Endpoint := do
  let (wrapper, imports) ← setup.importType wrapperType e.imports
  let p := Property.inWrapper (setup.wrapped e ofItems) wrapper
  return { e with
    imports
    returnType := some p.type.dataType
    returnContainer := some wrapper
    isArray := false
    isMap := false
    returnProperty := some p }

/-- The endpoint after one mapping of its returned type. The header that the mapping is for is gone.
-/
def mapReturnBy (e : Endpoint) (m : ResponseBodyMapping) : Lowering Endpoint := do
  let claims (p : Property) : Bool := m.fits p.baseName e.isArray
  if e.responseHeaders.any claims then
    let e := { e with responseHeaders := e.responseHeaders.eraseP claims }
    match m.mappedBodyType with
    | none => return e
    | some bodyType => do
      let e ← setup.envelop e bodyType m.isListWrapper
      if m.isValidated then
        let valid (p : Property) : Property := { p with facets.withValid := true }
        return { e with returnProperty := e.returnProperty.map valid }
      else return e
  else return e

/-- The endpoint after all mappings of its returned type. -/
def mapReturn (e : Endpoint) : Lowering Endpoint := do
  let e ← e.advance .paramsMapped .bodyMapped
  setup.options.responseBodyMappings.foldlM setup.mapReturnBy
    { e with facets.bareReturnType := e.returnType }

end Setup

end ApiLowering
