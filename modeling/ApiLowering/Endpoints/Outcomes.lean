import ApiLowering.Endpoints.Arguments
import ApiLowering.Program.Endpoint
import ApiLowering.Types.Resolution

/-!
# Outcomes of endpoints

Each response of an operation is an outcome of its endpoint. One of them has the type that the
method returns.

## Main definitions

* `Resolver.header` — the property of a header.
* `Resolver.outcome` — the outcome of a response.
* `LoweredResponse` — a response with its outcome.
* `LoweredResponse.method?` — the response that the method returns.
* `Resolver.returned` — what the method returns.
-/

namespace ApiLowering

/-- The schema of a response: that of the first content that has one. -/
def Response.schemaRef? (res : Response) : Option SchemaRef :=
  res.content.values.findSome? (·.schema)

/-- The response that is meant, with the description beside the reference to it, if there is one. -/
def Components.describedResponse (c : Components) : ResponseRef → Except Fault Response
  | .inline res => .ok res
  | .ref path description => do
    let res ← c.response path
    return { res with description := description.getD res.description }

/-- A header, by a reference or not. -/
def Components.resolveHeader (c : Components) : HeaderRef → Except Fault Header
  | .inline h => .ok h
  | .ref path => c.header path

/-- Whether a status code is one of success. -/
def Outcome.isSuccessCode (code : String) : Bool := code.toList.head? == some '2'

namespace Resolver

variable (r : Resolver)

/-- The property of a header. -/
def header (name : String) (ref : HeaderRef) : Lowering (Property × NameSet) := do
  let h ← r.components.resolveHeader ref
  let (p, imports) ← r.property name (h.schema.getD Schema.plainText) h.required .property
  let vendor := Extensions.vendor h.extensions
  return ({ p with
    description := h.description <|> p.description
    deprecated := p.deprecated || h.deprecated == some true
    sample := h.sample.map Json.plainText <|> p.sample
    vendorExtensions := p.vendorExtensions.insertAll vendor.entries }, imports)

/-- What a response says of its outcome, but for the body and the headers. -/
def bareOutcome (code : String) (res : Response) : Outcome where
  code
  message := res.description
  isDefault := code == "default"
  isSuccess := Outcome.isSuccessCode code
  vendorExtensions := Extensions.vendor res.extensions

/-- The outcome of a response. -/
def outcome (code : String) (res : Response) : Lowering (Outcome × NameSet) := do
  let bare := bareOutcome code res
  let (out, imports) ← match res.schemaRef? with
    | none => pure (bare, {})
    | some ref => do
      let t ← r.resolve ref
      pure ({ bare.withType t with schema := some (Schema.refJson ref) }, t.imports)
  let headers ← res.headers.entries.mapM fun (name, ref) => r.header name ref
  return ({ out with headers := headers.map Prod.fst },
    (headers.map Prod.snd).foldl NameSet.union imports)

end Resolver

/-! ## Returned types -/

/-- A response with its outcome. -/
structure LoweredResponse where
  code : String
  response : Response
  outcome : Outcome
  imports : NameSet

namespace LoweredResponse

/-- The media types of all responses. -/
def mediaTypes (rs : List LoweredResponse) : List String :=
  distinctBy id (rs.flatMap (·.response.content.keys))

/-- The response that the method returns: the first success, or else the default. -/
def method? (rs : List LoweredResponse) : Option LoweredResponse :=
  rs.find? (fun res => Outcome.isSuccessCode res.code) <|> rs.find? (·.code == "default")

end LoweredResponse

/-- What a method returns. -/
structure Returned where
  property : Property
  isFile : Bool
  imports : NameSet

/-- The property with the type of a file in the place of its own. -/
def Property.asFile (p : Property) (file : String) : Property :=
  { p with
    type := { p.type with
      dataType := file
      datatypeWithEnum := file
      baseType := file
      isContainer := false
      isArray := false }
    items := none }

namespace Resolver

variable (r : Resolver)

/-- The outcomes of the responses of an operation. -/
def loweredResponses (op : Operation) : Lowering (List LoweredResponse) :=
  op.responses.entries.mapM fun (code, ref) => do
    let response ← r.components.describedResponse ref
    let (outcome, imports) ← r.outcome code response
    return { code, response, outcome, imports }

/-- What the method returns whose response is known. Binary contents are files. -/
def returned (res : Response) : Lowering (Option Returned) := do
  match res.schemaRef? with
  | none => return none
  | some ref => do
    let (p, imports) ← r.property "response" ref true .property
    if p.type.flags.isFile || p.type.flags.isBinary then
      let (file, imports) ← r.setup.importType (← r.setup.mappedType "responseFile") imports
      return some ⟨p.asFile file, true, imports⟩
    else return some ⟨p, false, imports⟩

end Resolver

/-- The endpoint with what its method returns. -/
def Endpoint.returning (e : Endpoint) (ret : Returned) : Endpoint :=
  let p := ret.property
  { e with
    returnType := some p.type.dataType
    returnBaseType := some p.innermost.type.baseType
    returnContainer := p.type.containerType
    isArray := p.type.isArray
    isMap := p.type.isMap
    isResponseFile := ret.isFile
    returnProperty := some p }

end ApiLowering
