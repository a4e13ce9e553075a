import ApiLowering.Endpoints.Outcomes
import ApiLowering.Endpoints.Security

/-!
# Raw endpoints

The endpoints of the operations of a document as the document declares them. An operation becomes
one endpoint, or one for each variant of its body.

## Main definitions

* `Resolver.rawEndpoint` — the endpoint of an operation with one variant of its body.
* `Resolver.endpointsOf` — the endpoints of an operation.
* `Resolver.rawEndpoints` — the endpoints of a document.
-/

namespace ApiLowering

/-- The tag of operations without one. -/
def Endpoint.defaultTag : String := "default"

/-- An operation with its place in the document. -/
structure Site where
  path : String
  item : PathItem
  method : HttpMethod
  operation : Operation

/-- The operations of a document, in order. -/
def Document.sites (d : Document) : List Site :=
  d.paths.entries.flatMap fun (path, item) =>
    item.operations.map fun (method, operation) => { path, item, method, operation }

/-- The media types that a request accepts. -/
def Endpoint.accepted (produces : List String) : String :=
  if produces.isEmpty then Content.json else Text.join ", " produces

/-- The endpoint of an operation, but for its arguments and outcomes. -/
def Site.bareEndpoint (s : Site) (nickname : String) : Endpoint where
  httpMethod := s.method.text
  path := s.path
  operationId := nickname
  nickname
  tags := if s.operation.tags.isEmpty then [Endpoint.defaultTag] else s.operation.tags
  summary := s.operation.summary
  description := s.operation.description
  deprecated := s.operation.deprecated == some true
  vendorExtensions := Extensions.vendor s.operation.extensions

namespace Resolver

variable (r : Resolver)

/-- The endpoint of an operation with one variant of its body, or without a body. -/
def rawEndpoint (d : Document) (s : Site) (nickname : String)
    (body : Option (RequestBody × BodyVariant)) : Lowering Endpoint := do
  let op := s.operation
  let declared ← (← r.components.declaredParameters s.item op).mapM (r.declaredArgument nickname)
  let contents ← match body with
    | some (b, v) => r.contentArguments op b v
    | none => pure []
  let responses ← r.loweredResponses op
  let authMethods ← d.authentication op
  let consumes := (body.map (·.2.mediaTypes)).getD []
  let produces := LoweredResponse.mediaTypes responses
  let imports := ((declared ++ contents).map Prod.snd ++ responses.map (·.imports)).foldl
    NameSet.union {}
  let allParams := r.setup.options.arrange (declared.map Prod.fst) (contents.map Prod.fst)
  let outcomes := responses.map (·.outcome)
  let e : Endpoint := { s.bareEndpoint nickname with
    consumes, produces, authMethods, imports, allParams
    responses := outcomes
    facets := { contentType := consumes.head?, accepts := some (Endpoint.accepted produces) } }
  match LoweredResponse.method? responses with
  | none => return e.sortArguments
  | some res => do
    let e := { e with responseHeaders := res.outcome.headers }
    match ← r.returned res.response with
    | none => return e.sortArguments
    | some ret =>
      return ({ e with imports := e.imports.union ret.imports }.returning ret).sortArguments

/-- The body of an operation, unless it has no contents. -/
def bodyOf (op : Operation) : Except Fault (Option RequestBody) := do
  match op.requestBody with
  | none => return none
  | some ref => do
    let body ← r.components.requestBody ref
    return if body.content.isEmpty then none else some body

/-- The names of the variants of a body: all but the first one take a name after their media type.
-/
def variantNames (nickname : String) : List BodyVariant → List (String × BodyVariant)
  | [] => []
  | first :: rest =>
    (nickname, first) :: rest.map fun v => (nickname ++ Content.nameSuffix v.mediaType, v)

/-- The endpoints of an operation. -/
def endpointsOf (d : Document) (s : Site) : Lowering (List Endpoint) := do
  let nickname ← r.setup.nickname s.path s.method s.operation
  match ← r.bodyOf s.operation with
  | none => return [← r.rawEndpoint d s nickname none]
  | some body => do
    let variants ← r.setup.bodyVariants nickname body
    (variantNames nickname variants).mapM fun (name, v) =>
      r.rawEndpoint d s name (some (body, v))

/-- The endpoints of a document, in the order of its operations. -/
def rawEndpoints (d : Document) : Lowering (List Endpoint) :=
  return (← d.sites.mapM (r.endpointsOf d)).flatten

end Resolver

end ApiLowering
