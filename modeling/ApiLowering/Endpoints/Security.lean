import ApiLowering.Distinct
import ApiLowering.Document.Basic
import ApiLowering.Program.Endpoint
import ApiLowering.Run.Session

/-!
# Authentication of endpoints

The requirements of an operation name security schemes with scopes. Each scheme that is defined
becomes one way to authenticate, with the scopes of all requirements together.

## Main definitions

* `Document.schemeMentions` — the schemes that the requirements of an operation name.
* `Document.authMethods` — the ways to authenticate.
* `Document.authentication` — the same, with a warning for each scheme that is not defined.
-/

namespace ApiLowering

/-- The requirements in force for an operation: its own, even if there are none, or those of the
document. -/
def Document.requirements (d : Document) (op : Operation) : List SecurityRequirement :=
  (op.security <|> d.security).getD []

/-- The schemes that the requirements of an operation name, with their scopes, in order. -/
def Document.schemeMentions (d : Document) (op : Operation) : List (String × List String) :=
  (d.requirements op).flatMap (·.entries)

namespace AuthMethod

/-- The way to authenticate by a scheme. -/
def ofScheme (name : String) (s : SecurityScheme) (scopes : List String) : AuthMethod :=
  let flow := s.firstFlow?
  { name
    kind := s.kind.text
    scheme := s.scheme
    keyParamName := s.name
    keyIn := s.location.map (·.text)
    bearerFormat := s.bearerFormat
    flow := flow.map Prod.fst
    authorizationUrl := flow.bind (·.2.authorizationUrl)
    tokenUrl := flow.bind (·.2.tokenUrl)
    isApiKey := s.kind == .apiKey
    isBasic := s.isHttp "basic"
    isBearer := s.isHttp "bearer"
    isOAuth := s.kind == .oauth2
    isOpenIdConnect := s.kind == .openIdConnect
    scopes }

/-- Adds the scopes to the way of this name, or adds the way itself. -/
def require (a : AuthMethod) : List AuthMethod → List AuthMethod
  | [] => [a]
  | b :: rest =>
    if b.name == a.name then { b with scopes := addNew b.scopes a.scopes } :: rest
    else b :: require a rest

end AuthMethod

/-- The ways to authenticate for an operation, in the order in which they are named. -/
def Document.authMethods (d : Document) (op : Operation) : List AuthMethod :=
  (d.schemeMentions op).foldl (fun methods (name, scopes) =>
    match (d.components.getD {}).securitySchemes.find? name with
    | some s => (AuthMethod.ofScheme name s scopes).require methods
    | none => methods) []

/-- The schemes that are named but not defined. A document without components defines none and is
not held to it. -/
def Document.undefinedSchemes (d : Document) (op : Operation) : List String :=
  match d.components with
  | none => []
  | some c =>
    ((d.schemeMentions op).map Prod.fst).filter fun name => !c.securitySchemes.contains name

/-- The ways to authenticate for an operation. Schemes that are not defined are left out with a
warning. -/
def Document.authentication (d : Document) (op : Operation) : Lowering (List AuthMethod) := do
  (d.undefinedSchemes op).forM fun name =>
    Lowering.warnOnce ("security-scheme:" ++ name) s!"security scheme '{name}' is not defined"
  return d.authMethods op

end ApiLowering
