import ApiLowering.Document.Parameter
import ApiLowering.Document.Response
import ApiLowering.Document.Security

/-!
# Documents

An API document: paths with their operations, and components that other parts refer to.

## Main definitions

* `HttpMethod`, `Operation`, `PathItem` — the operations of a path.
* `Components` — the named parts.
* `Document` — the whole document.
* `PathItem.operations` — the operations of a path, in their fixed order.
-/

namespace ApiLowering

/-! ## Information -/

/-- Whom to ask about the API. -/
structure Contact where
  name : Option String
  url : Option String
  email : Option String
deriving Repr, Inhabited

/-- The licence of the API. -/
structure License where
  name : String
  url : Option String
deriving Repr, Inhabited

/-- What the API is. -/
structure Info where
  title : String
  description : Option String
  version : String
  termsOfService : Option String
  contact : Option Contact
  license : Option License
deriving Repr, Inhabited

/-- A variable of a server's address. -/
structure ServerVariable where
  fallback : String
  description : Option String
  choices : List String
deriving Repr, Inhabited

/-- A server of the API. -/
structure Server where
  url : String
  description : Option String
  addressVariables : Table ServerVariable
deriving Repr, Inhabited

/-- A group of operations. -/
structure Tag where
  name : String
  description : Option String
deriving Repr, Inhabited

/-- The address with every variable replaced by its default value, in order. -/
def Server.resolvedUrl (s : Server) : String :=
  s.addressVariables.entries.foldl
    (fun url (name, v) => Text.replace url ("\x7b" ++ name ++ "\x7d") v.fallback) s.url

/-! ## Operations -/

/-- A method of a request. -/
inductive HttpMethod where
  | get
  | put
  | post
  | delete
  | options
  | head
  | patch
  | trace
deriving Repr, DecidableEq, Inhabited

namespace HttpMethod

/-- All methods, in the order in which operations are visited. -/
def all : List HttpMethod := [get, put, post, delete, options, head, patch, trace]

/-- The name of a method. -/
def text : HttpMethod → String
  | get => "GET"
  | put => "PUT"
  | post => "POST"
  | delete => "DELETE"
  | options => "OPTIONS"
  | head => "HEAD"
  | patch => "PATCH"
  | trace => "TRACE"

end HttpMethod

/-- An operation of the API. -/
structure Operation where
  operationId : Option String := none
  summary : Option String := none
  description : Option String := none
  tags : List String := []
  parameters : List ParameterRef := []
  requestBody : Option RequestBodyRef := none
  responses : Table ResponseRef := {}
  deprecated : Option Bool := none
  security : Option (List SecurityRequirement) := none
  callbacks : Table Json := {}
  extensions : Table Json := {}
deriving Inhabited

/-- The operations of a path, with what they share. -/
structure PathItem where
  summary : Option String := none
  description : Option String := none
  parameters : List ParameterRef := []
  get : Option Operation := none
  put : Option Operation := none
  post : Option Operation := none
  delete : Option Operation := none
  options : Option Operation := none
  head : Option Operation := none
  patch : Option Operation := none
  trace : Option Operation := none
  extensions : Table Json := {}
deriving Inhabited

namespace PathItem

/-- The operation of a method. -/
def operation? (p : PathItem) : HttpMethod → Option Operation
  | .get => p.get
  | .put => p.put
  | .post => p.post
  | .delete => p.delete
  | .options => p.options
  | .head => p.head
  | .patch => p.patch
  | .trace => p.trace

/-- Replaces the operation of a method. -/
def setOperation (p : PathItem) (m : HttpMethod) (op : Option Operation) : PathItem :=
  match m with
  | .get => { p with get := op }
  | .put => { p with put := op }
  | .post => { p with post := op }
  | .delete => { p with delete := op }
  | .options => { p with options := op }
  | .head => { p with head := op }
  | .patch => { p with patch := op }
  | .trace => { p with trace := op }

/-- The operations of a path, in the order of `HttpMethod.all`. -/
def operations (p : PathItem) : List (HttpMethod × Operation) :=
  HttpMethod.all.filterMap fun m => (p.operation? m).map fun op => (m, op)

theorem operation?_setOperation_self (p : PathItem) (m : HttpMethod) (op : Option Operation) :
    (p.setOperation m op).operation? m = op := by
  cases m <;> rfl

theorem operation?_setOperation_of_ne (p : PathItem) {m n : HttpMethod} (op : Option Operation)
    (h : n ≠ m) : (p.setOperation m op).operation? n = p.operation? n := by
  cases m <;> cases n <;> first | rfl | exact absurd rfl h

end PathItem

/-! ## Components and documents -/

/-- The named parts of a document. -/
structure Components where
  schemas : Table SchemaRef := {}
  responses : Table ResponseRef := {}
  parameters : Table ParameterRef := {}
  samples : Table Json := {}
  requestBodies : Table RequestBodyRef := {}
  headers : Table HeaderRef := {}
  securitySchemes : Table SecurityScheme := {}
  links : Table Json := {}
  callbacks : Table Json := {}
deriving Inhabited

/-- Whether no component is declared. -/
def Components.isEmpty (c : Components) : Bool :=
  c.schemas.isEmpty && c.responses.isEmpty && c.parameters.isEmpty && c.samples.isEmpty &&
    c.requestBodies.isEmpty && c.headers.isEmpty && c.securitySchemes.isEmpty &&
    c.links.isEmpty && c.callbacks.isEmpty

/-- An API document. -/
structure Document where
  /-- The version of the specification that the document follows. -/
  openapi : String
  info : Info
  servers : List Server := []
  paths : Table PathItem := {}
  webhooks : Table PathItem := {}
  components : Option Components := none
  tags : List Tag := []
  security : Option (List SecurityRequirement) := none
  externalDocs : Option Json := none
  extensions : Table Json := {}
deriving Inhabited

end ApiLowering
