import ApiLowering.Document.Basic
import ApiLowering.Options.Setting
import ApiLowering.Program.Endpoint
import ApiLowering.Program.Facets
import ApiLowering.Program.Model
import ApiLowering.Run.Settings

/-!
# Programs

A program is what a document is lowered to: models, endpoints, and the interfaces that the endpoints
belong to.

## Main definitions

* `EndpointGroup` — the endpoints of one interface.
* `Program` — a lowered document.
* `Options.view` — the options as templates see them.
* `Program.model?`, `Program.endpoint?`, `Program.group?` — its parts by their names.
-/

namespace ApiLowering

/-! ## Options for templates -/

/-- The framework's package of the enterprise types. -/
def enterprisePackage (o : Options) : String := if o.useJakartaEe then "jakarta" else "javax"

/-- The options as templates see them. -/
def Options.view (o : Options) (swagger : SwaggerFlags) : Json :=
  .object ([("language", .string (Language.choice.text o.language)),
    ("target", .string (Target.choice.text o.target)),
    ("invokerPackage", .string o.invokerPackage),
    ("apiPackage", .string o.apiPackage),
    ("modelPackage", .string o.modelPackage),
    ("artifactId", .string o.artifactId),
    ("applicationName", .string o.applicationName),
    ("javaxPackage", .string (enterprisePackage o)),
    ("serializationLibrary", .string (Serialization.choice.text o.serializationLibrary)),
    ("dateLibrary", .string (DateTimeFormat.choice.text o.dateTimeFormat)),
    ("testFramework", .string (TestFramework.choice.text o.testFramework))] ++
  flagMembers [("useJakartaEe", o.useJakartaEe), ("useOptional", o.optional),
    ("useBeanValidation", o.beanValidation), ("lombok", o.lombok), ("useAuth", o.useAuth),
    ("reactive", o.reactive), ("fluxForArrays", o.fluxForArrays), ("plural", o.plural),
    ("visitable", o.visitable), ("generatedAnnotation", o.generatedAnnotation),
    ("useOneOfInterfaces", o.useOneOfInterfaces),
    ("useEnumCaseInsensitive", o.useEnumCaseInsensitive),
    ("requiredPropertiesInConstructor", o.requiredPropertiesInConstructor),
    ("generateHttpResponseAlways", o.generateHttpResponseAlways),
    ("generateHttpResponseWhereRequired", o.generateHttpResponseWhereRequired),
    ("generateOperationOnlyForFirstTag", o.operationOnlyForFirstTag),
    ("jackson", true),
    ("micronautSerdeJackson", o.serializationLibrary == .serdeJackson),
    ("isTestJunit", o.testFramework == .junit5), ("isTestSpock", o.testFramework == .spock),
    ("isTestKotest", o.testFramework == .kotest)] ++
  swagger.members ++
  Json.member? "title" o.title .string ++
  Json.member? "dateFormat" o.dateFormat .string ++
  Json.member? "dateTimeFormat" o.dateTimePattern .string)

/-! ## Programs and their parts -/

/-- What the program is. -/
structure ProgramInfo where
  title : String := ""
  description : Option String := none
  version : String := ""
deriving Repr, DecidableEq, Inhabited

/-- A server with its address. -/
structure ProgramServer where
  url : String
  description : Option String
deriving Repr, DecidableEq, Inhabited

/-- The endpoints of one interface. -/
structure EndpointGroup where
  tag : String
  classname : String
  classVarName : String
  /-- The positions of the endpoints among all endpoints. -/
  members : List Nat
deriving Repr, DecidableEq, Inhabited

/-- A lowered document. -/
structure Program where
  info : ProgramInfo := {}
  servers : List ProgramServer := []
  models : List Model := []
  endpoints : List Endpoint := []
  groups : List EndpointGroup := []
  /-- The packages of the types that are imported. -/
  importMapping : Table String := {}
  options : Options := {}
  swagger : SwaggerFlags := {}
  settings : Settings := {}
deriving Inhabited

/-- What the program is, as a value. -/
def ProgramInfo.toJson (i : ProgramInfo) : Json :=
  .object ([("title", .string i.title), ("version", .string i.version)] ++
    Json.member? "description" i.description .string)

/-- A server as a value. -/
def ProgramServer.toJson (s : ProgramServer) : Json :=
  .object ([("url", .string s.url)] ++ Json.member? "description" s.description .string)

/-- A group as a value. -/
def EndpointGroup.toJson (g : EndpointGroup) : Json :=
  .object [("tag", .string g.tag), ("classname", .string g.classname),
    ("classVarName", .string g.classVarName),
    ("operationIndices", .array (g.members.map .ofNat))]

/-- Settings as a value. -/
def Settings.toJson (s : Settings) : Json :=
  .object (flagMembers [("divideOperationsByContentType", s.divideOperationsByContentType)])

namespace Program

/-- The model of a class. -/
def model? (p : Program) (classname : String) : Option Model :=
  p.models.find? (·.classname == classname)

/-- The endpoint of an operation, by the operation's name or the method's. -/
def endpoint? (p : Program) (operationId : String) : Option Endpoint :=
  p.endpoints.find? fun e => e.operationId == operationId || e.nickname == operationId

/-- The group of an interface. -/
def group? (p : Program) (classname : String) : Option EndpointGroup :=
  p.groups.find? (·.classname == classname)

/-- A program as a value. -/
def toJson (p : Program) : Json :=
  .object [("info", p.info.toJson), ("servers", .array (p.servers.map ProgramServer.toJson)),
    ("models", .array (p.models.map Model.toJson)),
    ("operations", .array (p.endpoints.map Endpoint.toJson)),
    ("groups", .array (p.groups.map EndpointGroup.toJson)),
    ("importMapping", Json.ofTable p.importMapping .string),
    ("options", p.options.view p.swagger), ("settings", p.settings.toJson)]

end Program

end ApiLowering
