import ApiLowering.Distinct
import ApiLowering.Options.Choice
import ApiLowering.Options.Mapping
import ApiLowering.Pattern.Meaning

/-!
# Options

Every switch, table and list that steers lowering.

## Main definitions

* `Options` — the options with their default values.
* `Options.javaServer`, `Options.javaClient`, `Options.kotlinServer`, `Options.kotlinClient` — the
  usual combinations.
* `Options.validate` — the faults that only show in combination.
* `Options.canonical` — the options with the tables in order whose order has no meaning.
-/

namespace ApiLowering

/-- The options. -/
structure Options where
  language : Language := .java
  target : Target := .server
  beanValidation : Bool := true
  optional : Bool := false
  reactive : Bool := true
  fluxForArrays : Bool := false
  generateHttpResponseAlways : Bool := false
  generateHttpResponseWhereRequired : Bool := true
  /-- Without a value servers are annotated and clients are not. -/
  generateSwaggerAnnotations : Option SwaggerAnnotations := none
  useOneOfInterfaces : Bool := true
  useEnumCaseInsensitive : Bool := false
  requiredPropertiesInConstructor : Bool := true
  /-- Without a value it is on for servers and off for clients. -/
  generateOperationOnlyForFirstTag : Option Bool := none
  implicitHeaders : Bool := false
  useJakartaEe : Bool := true
  sortParamsByRequiredFlag : Bool := true
  skipOperationExample : Bool := false
  /-- Has no effect on lowering. -/
  skipSortingOperations : Bool := false
  ensureUniqueParams : Bool := true
  allowUnicodeIdentifiers : Bool := false
  prependFormOrBodyParameters : Bool := false
  generatedAnnotation : Bool := true
  plural : Bool := true
  visitable : Bool := false
  containerDefaultToNull : Bool := false
  removeOperationIdPrefix : Bool := false
  lombok : Bool := false
  useAuth : Bool := false
  testFramework : TestFramework := .junit5
  serializationLibrary : Serialization := .serdeJackson
  dateTimeFormat : DateTimeFormat := .zoned
  apiPackage : String := "org.openapitools.api"
  modelPackage : String := "org.openapitools.model"
  invokerPackage : String := "org.openapitools"
  artifactId : String := "openapi-micronaut"
  applicationName : String := "openapi-micronaut"
  title : Option String := none
  dateFormat : Option String := none
  dateTimePattern : Option String := none
  apiNamePrefix : String := ""
  apiNameSuffix : String := "Api"
  modelNamePrefix : String := ""
  modelNameSuffix : String := ""
  implicitHeadersRegex : Option String := none
  removeOperationIdPrefixDelimiter : String := "_"
  removeOperationIdPrefixCount : Nat := 1
  schemaMapping : Table String := {}
  importMapping : Table String := {}
  nameMapping : Table String := {}
  parameterNameMapping : Table String := {}
  enumNameMapping : Table String := {}
  modelNameMapping : Table String := {}
  typeMapping : Table String := {}
  inlineSchemaNameMapping : Table String := {}
  inlineSchemaOption : Table String := ⟨[("RESOLVE_INLINE_ENUMS", "true")]⟩
  openapiNormalizer : Table String := {}
  parameterMappings : List ParameterMapping := []
  responseBodyMappings : List ResponseBodyMapping := []
  reservedWordsAugment : List String := []
  additionalModelTypeAnnotations : List String := []
  additionalEnumTypeAnnotations : List String := []
  additionalOneOfTypeAnnotations : List String := []

instance : Inhabited Options := ⟨{}⟩

namespace Options

/-! ## Usual combinations -/

/-- A server in Java. -/
def javaServer : Options := {}

/-- A client in Java. -/
def javaClient : Options := { target := .client }

/-- A server in Kotlin. -/
def kotlinServer : Options := { language := .kotlin, testFramework := .kotest }

/-- A client in Kotlin. -/
def kotlinClient : Options := { language := .kotlin, target := .client, testFramework := .kotest }

/-! ## Derived options -/

/-- Whether a server is generated. -/
def isServer (o : Options) : Bool := o.target == .server

/-- Whether an operation belongs to its first tag only. -/
def operationOnlyForFirstTag (o : Options) : Bool :=
  o.generateOperationOnlyForFirstTag.getD o.isServer

/-- Which annotations describe the API. -/
def swaggerAnnotations (o : Options) : SwaggerAnnotations :=
  o.generateSwaggerAnnotations.getD (if o.isServer then .swagger2 else .off)

/-- Whether a switch of the inline schemas is on. -/
def inlineOption (o : Options) (key : String) : Bool :=
  (o.inlineSchemaOption.find? key).any fun v => Text.equalsIgnoringCase v "true"

/-! ## Checking and ordering -/

/-- Refuses patterns that cannot be read and test frameworks of the other language. -/
def validate (o : Options) : Except Fault Unit := do
  if let some pattern := o.implicitHeadersRegex then
    if (Pattern.read? pattern).isNone then
      throw (.configuration "implicitHeadersRegex" pattern)
  let framework := TestFramework.choice.text o.testFramework
  if o.language = .kotlin ∧ o.testFramework = .spock then
    throw (.configuration "testFramework" framework)
  if o.language = .java ∧ o.testFramework = .kotest then
    throw (.configuration "testFramework" framework)

/-- The options with the tables sorted whose order has no meaning, and each reserved word once. -/
def canonical (o : Options) : Options :=
  { o with
    schemaMapping := o.schemaMapping.sortByKey
    nameMapping := o.nameMapping.sortByKey
    parameterNameMapping := o.parameterNameMapping.sortByKey
    enumNameMapping := o.enumNameMapping.sortByKey
    modelNameMapping := o.modelNameMapping.sortByKey
    inlineSchemaNameMapping := o.inlineSchemaNameMapping.sortByKey
    inlineSchemaOption := o.inlineSchemaOption.sortByKey
    openapiNormalizer := o.openapiNormalizer.sortByKey
    reservedWordsAugment := distinctBy id o.reservedWordsAugment }

end Options

end ApiLowering
