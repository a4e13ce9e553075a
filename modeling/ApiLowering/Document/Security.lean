import ApiLowering.Document.Schema.Reader
import ApiLowering.Text.Basic

/-!
# Security schemes

## Main definitions

* `SecurityScheme` — a way to authenticate.
* `SecurityScheme.firstFlow?` — the first flow of an OAuth scheme, with its name.
* `SecurityRequirement` — the scopes required of each scheme.
-/

namespace ApiLowering

/-- The kind of a security scheme. -/
inductive SecurityKind where
  | apiKey
  | http
  | oauth2
  | openIdConnect
  | mutualTls
deriving Repr, DecidableEq, Inhabited

namespace SecurityKind

/-- The name of a kind. -/
def text : SecurityKind → String
  | apiKey => "apiKey"
  | http => "http"
  | oauth2 => "oauth2"
  | openIdConnect => "openIdConnect"
  | mutualTls => "mutualTLS"

/-- All kinds. -/
def all : List SecurityKind := [apiKey, http, oauth2, openIdConnect, mutualTls]

/-- The kind of a name. -/
def ofText? (s : String) : Option SecurityKind := all.find? (·.text == s)

end SecurityKind

/-- Where an API key travels. -/
inductive KeyLocation where
  | query
  | header
  | cookie
deriving Repr, DecidableEq, Inhabited

namespace KeyLocation

/-- The name of a location. -/
def text : KeyLocation → String
  | query => "query"
  | header => "header"
  | cookie => "cookie"

/-- All locations. -/
def all : List KeyLocation := [query, header, cookie]

/-- The location of a name. -/
def ofText? (s : String) : Option KeyLocation := all.find? (·.text == s)

end KeyLocation

/-- One way to get a token. -/
structure OAuthFlow where
  authorizationUrl : Option String
  tokenUrl : Option String
  refreshUrl : Option String
  scopes : Table String
deriving Repr, Inhabited

/-- The ways to get a token. -/
structure OAuthFlows where
  implicit : Option OAuthFlow
  password : Option OAuthFlow
  clientCredentials : Option OAuthFlow
  authorizationCode : Option OAuthFlow
deriving Repr, Inhabited

/-- A way to authenticate. -/
structure SecurityScheme where
  kind : SecurityKind
  description : Option String
  name : Option String
  location : Option KeyLocation
  scheme : Option String
  bearerFormat : Option String
  flows : Option OAuthFlows
  openIdConnectUrl : Option String
deriving Repr, Inhabited

/-- The scopes required of each scheme. -/
abbrev SecurityRequirement := Table (List String)

namespace OAuthFlow

/-- Reads a flow. -/
def read? (t : Tree) : Option OAuthFlow := do
  let f ← Fields.closed? ["authorizationUrl", "tokenUrl", "refreshUrl", "scopes"] t
  return {
    authorizationUrl := ← f.optional? "authorizationUrl" Tree.text?
    tokenUrl := ← f.optional? "tokenUrl" Tree.text?
    refreshUrl := ← f.optional? "refreshUrl" Tree.text?
    scopes := ← f.defaulted? "scopes" (Tree.table? Tree.text?) {} }

/-- A flow as a value. -/
def toJson (f : OAuthFlow) : Json :=
  .object ([("scopes", Json.ofTable f.scopes .string)] ++
    Json.member? "authorizationUrl" f.authorizationUrl .string ++
    Json.member? "tokenUrl" f.tokenUrl .string ++
    Json.member? "refreshUrl" f.refreshUrl .string)

end OAuthFlow

namespace OAuthFlows

/-- Reads the flows. -/
def read? (t : Tree) : Option OAuthFlows := do
  let f ← Fields.closed? ["implicit", "password", "clientCredentials", "authorizationCode"] t
  return {
    implicit := ← f.optional? "implicit" OAuthFlow.read?
    password := ← f.optional? "password" OAuthFlow.read?
    clientCredentials := ← f.optional? "clientCredentials" OAuthFlow.read?
    authorizationCode := ← f.optional? "authorizationCode" OAuthFlow.read? }

/-- The flows with their names, in a fixed order. -/
def named (f : OAuthFlows) : List (String × Option OAuthFlow) :=
  [("implicit", f.implicit), ("password", f.password),
    ("clientCredentials", f.clientCredentials), ("authorizationCode", f.authorizationCode)]

/-- The flows as a value. -/
def toJson (f : OAuthFlows) : Json :=
  .object (f.named.flatMap fun (name, flow) => Json.member? name flow OAuthFlow.toJson)

end OAuthFlows

namespace SecurityScheme

/-- Reads a security scheme. -/
def read? (t : Tree) : Option SecurityScheme := do
  let f ← Fields.closed? ["type", "description", "name", "in", "scheme", "bearerFormat", "flows",
    "openIdConnectUrl"] t
  return {
    kind := ← f.required? "type" (readChoice? SecurityKind.ofText? SecurityKind.all)
    description := ← f.optional? "description" Tree.text?
    name := ← f.optional? "name" Tree.text?
    location := ← f.optional? "in" (readChoice? KeyLocation.ofText? KeyLocation.all)
    scheme := ← f.optional? "scheme" Tree.text?
    bearerFormat := ← f.optional? "bearerFormat" Tree.text?
    flows := ← f.optional? "flows" OAuthFlows.read?
    openIdConnectUrl := ← f.optional? "openIdConnectUrl" Tree.text? }

/-- A security scheme as a value. -/
def toJson (s : SecurityScheme) : Json :=
  .object ([("type", .string s.kind.text)] ++
    Json.member? "description" s.description .string ++
    Json.member? "name" s.name .string ++
    Json.member? "in" s.location (fun l => .string l.text) ++
    Json.member? "scheme" s.scheme .string ++
    Json.member? "bearerFormat" s.bearerFormat .string ++
    Json.member? "flows" s.flows OAuthFlows.toJson ++
    Json.member? "openIdConnectUrl" s.openIdConnectUrl .string)

/-- Whether this is the HTTP scheme of a name, in any letter case. -/
def isHttp (s : SecurityScheme) (name : String) : Bool :=
  s.kind == .http && s.scheme.any fun n => Text.equalsIgnoringCase n name

/-- The first flow with its name. -/
def firstFlow? (s : SecurityScheme) : Option (String × OAuthFlow) := do
  let flows ← s.flows
  flows.named.findSome? fun (name, flow) => flow.map fun f => (name, f)

end SecurityScheme

namespace SecurityRequirement

/-- Reads a security requirement. -/
def read? (t : Tree) : Option SecurityRequirement := t.table? Tree.texts?

/-- A security requirement as a value. -/
def toJson (r : SecurityRequirement) : Json := Json.ofTable r .ofStrings

end SecurityRequirement

end ApiLowering
