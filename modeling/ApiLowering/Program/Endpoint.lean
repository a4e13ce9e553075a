import ApiLowering.Program.Argument
import ApiLowering.Fault

/-!
# Endpoints

An endpoint is the method of a generated interface that stands for one operation of the document.

## Main definitions

* `Outcome` — what an endpoint answers under one status code.
* `Outcome.isOtherSuccess` — a success that needs its status stated.
* `Stage`, `Endpoint.advance` — the stages that an endpoint passes, one after the other.
* `Endpoint` — an endpoint.
* `Endpoint.sortArguments` — the lists of arguments by location.
* `Endpoint.toJson` — an endpoint as a free-form value.
-/

namespace ApiLowering

/-! ## Outcomes -/

/-- What an endpoint answers under one status code. -/
structure Outcome where
  /-- A status code, a range of them such as `2XX`, or `default`. -/
  code : String := ""
  message : String := ""
  /-- The type of the body, if there is one. -/
  type : Option TypeFacts := none
  isDefault : Bool := false
  isSuccess : Bool := false
  /-- The schema of the body as the document has it. -/
  schema : Option Json := none
  headers : List Property := []
  vendorExtensions : Table Json := {}
deriving Inhabited

namespace Outcome

/-- Whether this is a success under another code than 200. -/
def isOtherSuccess (r : Outcome) : Bool := r.isSuccess && r.code != "200"

/-- An outcome as a value. -/
def toJson (r : Outcome) : Json :=
  let facts := r.type.getD {}
  .object ([("code", .string r.code), ("message", .string r.message),
    ("headers", .array (r.headers.map Property.toJson)),
    ("vendorExtensions", Json.ofTable r.vendorExtensions id)] ++
  flagMembers (facts.flags.named ++
    [("isDefault", r.isDefault), ("isArray", facts.isArray), ("isMap", facts.isMap),
      ("isModel", facts.isModel), ("is2xx", r.isSuccess)]) ++
  Json.member? "dataType" (r.type.map (·.dataType)) .string ++
  Json.member? "baseType" (r.type.map (·.baseType)) .string ++
  Json.member? "containerType" facts.containerType .string ++
  Json.member? "schema" r.schema id)

end Outcome

/-! ## Stages -/

/-- A stage of an endpoint. -/
inductive Stage where
  | raw
  | normalized
  | paramsMapped
  | bodyMapped
  | wrapped
  | annotationsApplied
  | frozen
deriving Repr, DecidableEq, Inhabited

/-- The name of a stage. -/
def Stage.text : Stage → String
  | raw => "raw"
  | normalized => "normalized"
  | paramsMapped => "params-mapped"
  | bodyMapped => "body-mapped"
  | wrapped => "wrapped"
  | annotationsApplied => "annotations-applied"
  | frozen => "frozen"

/-- The stage of a name. -/
def Stage.ofText? (s : String) : Option Stage :=
  [raw, normalized, paramsMapped, bodyMapped, wrapped, annotationsApplied, frozen].find?
    (·.text == s)

/-! ## Authentication -/

/-- A way to authenticate that an endpoint accepts. -/
structure AuthMethod where
  /-- The key of the security scheme. -/
  name : String := ""
  kind : String := ""
  scheme : Option String := none
  keyParamName : Option String := none
  keyIn : Option String := none
  bearerFormat : Option String := none
  /-- The name of the first OAuth flow. -/
  flow : Option String := none
  authorizationUrl : Option String := none
  tokenUrl : Option String := none
  isApiKey : Bool := false
  isBasic : Bool := false
  isBearer : Bool := false
  isOAuth : Bool := false
  isOpenIdConnect : Bool := false
  scopes : List String := []
deriving Repr, DecidableEq, Inhabited

/-- A way to authenticate as a value. -/
def AuthMethod.toJson (a : AuthMethod) : Json :=
  .object ([("name", .string a.name), ("type", .string a.kind), ("scopes", .ofStrings a.scopes)] ++
    flagMembers [("isApiKey", a.isApiKey), ("isBasicBasic", a.isBasic),
      ("isBasicBearer", a.isBearer), ("isOauth", a.isOAuth),
      ("isOpenIdConnect", a.isOpenIdConnect)] ++
    Json.member? "scheme" a.scheme .string ++
    Json.member? "keyParamName" a.keyParamName .string ++
    Json.member? "keyIn" a.keyIn .string ++
    Json.member? "bearerFormat" a.bearerFormat .string ++
    Json.member? "flow" a.flow .string ++
    Json.member? "authorizationUrl" a.authorizationUrl .string ++
    Json.member? "tokenUrl" a.tokenUrl .string)

/-! ## Endpoints -/

/-- What the templates of an endpoint want to know besides. -/
structure EndpointFacets where
  methodAllowsBody : Bool := false
  onlyDefaultConsumeOrEmpty : Bool := false
  onlyDefaultProduceOrEmpty : Bool := false
  hasNotBodyParam : Bool := false
  hasMultipleParams : Bool := false
  isReturnFlux : Bool := false
  /-- The return type before it was wrapped. -/
  bareReturnType : Option String := none
  contentType : Option String := none
  accepts : Option String := none
  sample : Option String := none
  groovyExample : Option String := none
  swagger : SwaggerFlags := {}
  annotations : ExtraAnnotations := {}
deriving Repr, DecidableEq, Inhabited

/-- The method of a generated interface that stands for one operation. -/
structure Endpoint where
  httpMethod : String := ""
  path : String := ""
  operationId : String := ""
  /-- The name of the method. -/
  nickname : String := ""
  tags : List String := []
  summary : Option String := none
  description : Option String := none
  deprecated : Bool := false
  consumes : List String := []
  produces : List String := []
  allParams : List Argument := []
  /-- The arguments that are neither a body nor fields of a form. -/
  swaggerParams : List Argument := []
  /-- The arguments as they were declared. -/
  givenParams : List Argument := []
  implicitHeadersParams : List Argument := []
  bodyParams : List Argument := []
  formParams : List Argument := []
  headerParams : List Argument := []
  pathParams : List Argument := []
  queryParams : List Argument := []
  cookieParams : List Argument := []
  bodyParam : Option Argument := none
  hasParams : Bool := false
  responses : List Outcome := []
  responseHeaders : List Property := []
  returnType : Option String := none
  returnProperty : Option Property := none
  returnContainer : Option String := none
  returnBaseType : Option String := none
  isArray : Bool := false
  isMap : Bool := false
  isResponseFile : Bool := false
  authMethods : List AuthMethod := []
  imports : NameSet := {}
  facets : EndpointFacets := {}
  vendorExtensions : Table Json := {}
  stage : Stage := .raw
deriving Inhabited

/-- The facets as a value. -/
def EndpointFacets.toJson (f : EndpointFacets) : Json :=
  .object (flagMembers [("methodAllowsBody", f.methodAllowsBody),
      ("onlyDefaultConsumeOrEmpty", f.onlyDefaultConsumeOrEmpty),
      ("onlyDefaultProduceOrEmpty", f.onlyDefaultProduceOrEmpty),
      ("hasNotBodyParam", f.hasNotBodyParam), ("hasMultipleParams", f.hasMultipleParams),
      ("isReturnFlux", f.isReturnFlux)] ++
    f.swagger.members ++
    [("annotations", f.annotations.toJson)] ++
    Json.member? "originalReturnType" f.bareReturnType .string ++
    Json.member? "contentType" f.contentType .string ++
    Json.member? "accepts" f.accepts .string ++
    Json.member? "example" f.sample .string ++
    Json.member? "groovyExample" f.groovyExample .string)

namespace Endpoint

/-- The endpoint in its next stage, provided that it is in the expected one. -/
def advance (e : Endpoint) (expected next : Stage) : Except Fault Endpoint :=
  if e.stage = expected then .ok { e with stage := next }
  else
    let current := e.stage.text
    let wanted := expected.text
    let target := next.text
    .error (.inconsistent
      s!"operation '{e.operationId}' is {current}, expected {wanted} before {target}")

/-- Tells the arguments apart by where they travel. -/
def sortArguments (e : Endpoint) : Endpoint :=
  { e with
    bodyParams := e.allParams.filter (·.isBody)
    formParams := e.allParams.filter (·.isForm)
    headerParams := e.allParams.filter (·.isHeader)
    pathParams := e.allParams.filter (·.isPath)
    queryParams := e.allParams.filter (·.isQuery)
    cookieParams := e.allParams.filter (·.isCookie)
    bodyParam := (e.allParams.filter (·.isBody)).head?
    hasParams := !e.allParams.isEmpty }

/-- The lists of arguments, with their names. -/
def argumentLists (e : Endpoint) : List (String × List Argument) :=
  [("allParams", e.allParams), ("swaggerParams", e.swaggerParams),
    ("originalParams", e.givenParams), ("implicitHeadersParams", e.implicitHeadersParams),
    ("bodyParams", e.bodyParams), ("formParams", e.formParams),
    ("headerParams", e.headerParams), ("pathParams", e.pathParams),
    ("queryParams", e.queryParams), ("cookieParams", e.cookieParams)]

/-- An endpoint as a value. -/
def toJson (e : Endpoint) : Json :=
  .object ([("httpMethod", .string e.httpMethod), ("path", .string e.path),
    ("operationId", .string e.operationId), ("nickname", .string e.nickname),
    ("tags", .ofStrings e.tags), ("consumes", .ofStrings e.consumes),
    ("produces", .ofStrings e.produces)] ++
  flagMembers [("deprecated", e.deprecated), ("hasParams", e.hasParams),
    ("isArray", e.isArray), ("isMap", e.isMap), ("isResponseFile", e.isResponseFile)] ++
  e.argumentLists.map (fun (name, ps) => (name, .array (ps.map Argument.toJson))) ++
  [("responses", .array (e.responses.map Outcome.toJson)),
    ("responseHeaders", .array (e.responseHeaders.map Property.toJson)),
    ("authMethods", .array (e.authMethods.map AuthMethod.toJson)),
    ("imports", e.imports.toJson), ("facets", e.facets.toJson),
    ("vendorExtensions", Json.ofTable e.vendorExtensions id)] ++
  Json.member? "summary" e.summary .string ++
  Json.member? "description" e.description .string ++
  Json.member? "bodyParam" e.bodyParam Argument.toJson ++
  Json.member? "returnType" e.returnType .string ++
  Json.member? "returnProperty" e.returnProperty Property.toJson ++
  Json.member? "returnContainer" e.returnContainer .string ++
  Json.member? "returnBaseType" e.returnBaseType .string)

end Endpoint

end ApiLowering
