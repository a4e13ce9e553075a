import ApiLowering.Canonical.Schema
import ApiLowering.Document.Lookup
import ApiLowering.Document.Writer
import ApiLowering.Run.Session

/-!
# Canonical documents

In the canonical form of a document paths and components are in order, nothing is declared twice,
every operation has the parameters of its path, referenced responses and headers are copied to where
they are used, and every schema is canonical.

## Main definitions

* `Document.canonical` — the canonical form.
* `Document.danglingReferences` — the warnings for references that lead nowhere.
* `Setup.canonicalDocument` — the canonical form as a step of a run.
-/

namespace ApiLowering

/-! ## Switches -/

namespace Canonical

/-- The switches of which canonical forms know. -/
def switchNames : List String :=
  ["SIMPLIFY_ONE_OF_ANY_OF", "REMOVE_ANYOF_ONEOF_AND_KEEP_PROPERTIES_ONLY",
    "SET_TAGS_FOR_ALL_OPERATIONS", "DIVIDE_OPERATIONS_BY_CONTENT_TYPE"]

/-- The switches of a table. -/
def Switches.ofTable (t : Table String) : Switches :=
  let isOn (key : String) : Bool := (t.find? key).any fun v => Text.equalsIgnoringCase v "true"
  { simplifyAlternatives := isOn "SIMPLIFY_ONE_OF_ANY_OF"
    keepPropertiesOnly := isOn "REMOVE_ANYOF_ONEOF_AND_KEEP_PROPERTIES_ONLY"
    tag := (t.find? "SET_TAGS_FOR_ALL_OPERATIONS").filter (· != "") }

/-- Whether a switch has no effect at all: it is unknown, or it asks for an empty tag. -/
def isUnknownSwitch (key value : String) : Bool :=
  !switchNames.contains key || (key == "SET_TAGS_FOR_ALL_OPERATIONS" && value == "")

/-- The switches of a table that have no effect. -/
def unknownSwitches (t : Table String) : List String := (t.filter isUnknownSwitch).keys

end Canonical

open Canonical

/-! ## References to responses and headers -/

namespace Components

/-- A copy of the header that a reference leads to; a reference that leads nowhere stays. -/
def copyHeader (c : Components) : HeaderRef → HeaderRef
  | .inline h => .inline h
  | .ref path =>
    match c.header path with
    | .ok h => .inline h
    | .error _ => .ref path

/-- The response with copies of its headers. -/
def copyHeaders (c : Components) (r : Response) : Response :=
  { r with headers := r.headers.map c.copyHeader }

/-- A copy of the response that a reference leads to, with the description beside the reference; a
reference that leads nowhere stays. -/
def copyResponse (c : Components) : ResponseRef → ResponseRef
  | .inline r => .inline (c.copyHeaders r)
  | .ref path description =>
    match c.response path with
    | .ok r => .inline (c.copyHeaders { r with description := description.getD r.description })
    | .error _ => .ref path description

/-- The warnings for the headers of a response that lead nowhere. -/
def danglingHeaders (c : Components) (r : Response) : List String :=
  r.headers.values.filterMap fun
    | .inline _ => none
    | .ref path =>
      match c.header path with
      | .ok _ => none
      | .error f => some ("keeping unresolved header reference: " ++ f.message)

/-- The warnings for a response that leads nowhere, or whose headers do. -/
def danglingIn (c : Components) : ResponseRef → List String
  | .inline r => c.danglingHeaders r
  | .ref path _ =>
    match c.response path with
    | .ok r => c.danglingHeaders r
    | .error f => ["keeping unresolved response reference: " ++ f.message]

/-- The components with copies in the place of references to responses and headers. -/
def withCopies (c : Components) : Components :=
  { c with responses := c.responses.map c.copyResponse }

/-- The components in order. -/
def sorted (c : Components) : Components where
  schemas := c.schemas.sortByKey
  responses := c.responses.sortByKey
  parameters := c.parameters.sortByKey
  samples := c.samples.sortByKey
  requestBodies := c.requestBodies.sortByKey
  headers := c.headers.sortByKey
  securitySchemes := c.securitySchemes.sortByKey
  links := c.links.sortByKey
  callbacks := c.callbacks.sortByKey

end Components

/-! ## Schemas inside other things -/

/-- The media type with its schema in canonical form. -/
def MediaType.canonical (sw : Switches) (m : MediaType) : MediaType :=
  { m with schema := m.schema.map (Schema.canonicalRef sw) }

/-- The parameter with its schemas in canonical form. -/
def Parameter.canonical (sw : Switches) (p : Parameter) : Parameter :=
  { p with
    schema := p.schema.map (Schema.canonicalRef sw)
    content := p.content.map (MediaType.canonical sw) }

/-- The request body with its schemas in canonical form. -/
def RequestBody.canonical (sw : Switches) (b : RequestBody) : RequestBody :=
  { b with content := b.content.map (MediaType.canonical sw) }

/-- The header with its schema in canonical form. -/
def Header.canonical (sw : Switches) (h : Header) : Header :=
  { h with schema := h.schema.map (Schema.canonicalRef sw) }

/-- The response with its schemas in canonical form. -/
def Response.canonical (sw : Switches) (r : Response) : Response :=
  { r with
    content := r.content.map (MediaType.canonical sw)
    headers := r.headers.map (Referable.mapInline (Header.canonical sw)) }

/-- The response with its schemas in canonical form, if it is here. -/
def ResponseRef.canonical (sw : Switches) : ResponseRef → ResponseRef
  | .ref path description => .ref path description
  | .inline r => .inline (r.canonical sw)

/-! ## Operations -/

namespace Components

/-- What tells parameters apart: name and location, or the path of a reference that leads nowhere.
-/
def parameterKey (c : Components) (p : ParameterRef) : String × Option ParameterLocation :=
  match c.parameter p, p with
  | .ok p, _ => (p.name, some p.location)
  | .error _, .ref path => (path, none)
  | .error _, .inline p => (p.name, some p.location)

/-- The parameters of an operation: its own ones, and then those of its path that it does not
declare itself. -/
def allParameters (c : Components) (own shared : List ParameterRef) : List ParameterRef :=
  distinctBy c.parameterKey (own ++ shared)

/-- The canonical form of an operation; `shared` are the parameters of its path. -/
def canonicalOperation (c : Components) (sw : Switches) (shared : List ParameterRef)
    (op : Operation) : Operation :=
  { op with
    parameters :=
      (c.allParameters op.parameters shared).map (Referable.mapInline (Parameter.canonical sw))
    security := op.security.map
      (distinctWith fun r s => r.toJson.same s.toJson)
    tags := match sw.tag with
      | some tag => [tag]
      | none => distinctBy id op.tags
    requestBody := op.requestBody.map (Referable.mapInline (RequestBody.canonical sw))
    responses := op.responses.map fun r => (c.copyResponse r).canonical sw }

/-- The canonical form of a path. -/
def canonicalPath (c : Components) (sw : Switches) (p : PathItem) : PathItem :=
  HttpMethod.all.foldl
    (fun q m => q.setOperation m ((q.operation? m).map (c.canonicalOperation sw p.parameters)))
    { p with parameters := [] }

/-- The canonical form of the components, whose references are copies already. -/
def canonical (c : Components) (sw : Switches) : Components :=
  { c with
    schemas := c.schemas.map (Schema.canonicalRef sw)
    parameters := c.parameters.map (Referable.mapInline (Parameter.canonical sw))
    requestBodies := c.requestBodies.map (Referable.mapInline (RequestBody.canonical sw))
    responses := c.responses.map (ResponseRef.canonical sw)
    headers := c.headers.map (Referable.mapInline (Header.canonical sw)) }

end Components

/-! ## Documents -/

namespace Document

/-- The document in order, with nothing declared twice. -/
def arranged (d : Document) : Document :=
  { d with
    paths := d.paths.sortByKey
    webhooks := d.webhooks.sortByKey
    components := d.components.map Components.sorted
    tags := distinctBy (·.name) d.tags
    servers := distinctBy (·.url) d.servers
    security := d.security.map (distinctWith fun r s => r.toJson.same s.toJson) }

/-- The document with copies in the place of references between components. -/
def withCopies (d : Document) : Document :=
  { d with components := d.components.map Components.withCopies }

/-- The canonical form of a document that is arranged and has its copies. -/
def canonicalParts (d : Document) (sw : Switches) : Document :=
  let c := d.parts
  { d with
    paths := d.paths.map (c.canonicalPath sw)
    webhooks := (d.webhooks.map (c.canonicalPath sw)).filter fun _ p => !p.operations.isEmpty
    components := (d.components.map (·.canonical sw)).filter (!·.isEmpty) }

/-- The canonical form of a document. -/
def canonical (d : Document) (sw : Switches) : Document := d.arranged.withCopies.canonicalParts sw

/-- The operations of the paths and webhooks, in order. -/
def allOperations (d : Document) : List Operation :=
  (d.paths.values ++ d.webhooks.values).flatMap fun p => p.operations.map Prod.snd

/-- The warnings for responses and headers that lead nowhere: those of the components, then those of
the operations. -/
def danglingReferences (d : Document) : List String :=
  let arranged := d.arranged
  let copied := arranged.withCopies
  arranged.parts.responses.values.flatMap arranged.parts.danglingIn ++
    copied.allOperations.flatMap fun op => op.responses.values.flatMap copied.parts.danglingIn

end Document

/-- The canonical form of a document, with its warnings. -/
def Setup.canonicalDocument (setup : Setup) (d : Document) : Lowering Document := do
  let switches := setup.options.openapiNormalizer
  for key in unknownSwitches switches do
    Lowering.warnOnce ("normalizer:" ++ key) s!"ignoring unknown openapiNormalizer switch '{key}'"
  for message in d.danglingReferences do
    Lowering.warn message
  return d.canonical (.ofTable switches)

end ApiLowering
