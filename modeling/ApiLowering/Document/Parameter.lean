import ApiLowering.Document.Content

/-!
# Parameters and request bodies

## Main definitions

* `ParameterLocation`, `Parameter` — a named input of an operation.
* `RequestBody` — the body that an operation takes, by media type.
-/

namespace ApiLowering

/-- Where a parameter travels. -/
inductive ParameterLocation where
  | query
  | header
  | path
  | cookie
deriving Repr, DecidableEq, Inhabited

namespace ParameterLocation

/-- The name of a location. -/
def text : ParameterLocation → String
  | query => "query"
  | header => "header"
  | path => "path"
  | cookie => "cookie"

/-- All locations. -/
def all : List ParameterLocation := [query, header, path, cookie]

/-- The location of a name. -/
def ofText? (s : String) : Option ParameterLocation := all.find? (·.text == s)

end ParameterLocation

/-- A named input of an operation. -/
structure Parameter where
  name : String
  location : ParameterLocation
  description : Option String := none
  required : Bool := false
  deprecated : Option Bool := none
  schema : Option SchemaRef := none
  /-- The alternative to a schema; only its first media type counts. -/
  content : Table MediaType := {}
  style : Option String := none
  explode : Option Bool := none
  sample : Option Json := none
  samples : Table Json := {}
  extensions : Table Json := {}
deriving Inhabited

/-- A parameter, or a reference to one. -/
abbrev ParameterRef := Referable Parameter

namespace Parameter

/-- Reads a parameter. -/
def read? (t : Tree) : Option Parameter := do
  let f ← Fields.open? ["name", "in", "description", "required", "deprecated", "schema", "content",
    "style", "explode", "example", "examples"] t
  return {
    name := ← f.required? "name" Tree.text?
    location := ← f.required? "in" (readChoice? ParameterLocation.ofText? ParameterLocation.all)
    description := ← f.optional? "description" Tree.text?
    required := ← f.defaulted? "required" Tree.bool? false
    deprecated := ← f.optional? "deprecated" Tree.bool?
    schema := ← f.optional? "schema" Schema.readRef?
    content := ← f.defaulted? "content" (Tree.table? MediaType.read?) {}
    style := ← f.optional? "style" Tree.text?
    explode := ← f.optional? "explode" Tree.bool?
    sample := ← f.optional? "example" Tree.toJson?
    samples := ← f.defaulted? "examples" (Tree.table? Tree.toJson?) {}
    extensions := ← f.extensions? }

/-- Reads a parameter or a reference to one. -/
def readRef? (t : Tree) : Option ParameterRef := Referable.read? read? t

/-- A parameter as a value. -/
def toJson (p : Parameter) : Json :=
  .object ([("name", .string p.name), ("in", .string p.location.text),
      ("required", .bool p.required)] ++
    Json.member? "description" p.description .string ++
    Json.member? "deprecated" p.deprecated .bool ++
    Json.member? "schema" p.schema Schema.refJson ++
    Json.tableMember "content" p.content MediaType.toJson ++
    Json.member? "style" p.style .string ++
    Json.member? "explode" p.explode .bool ++
    Json.member? "example" p.sample id ++
    Json.tableMember "examples" p.samples id ++
    p.extensions.entries)

/-- A parameter or a reference as a value. -/
def refJson (p : ParameterRef) : Json := p.toJson toJson

end Parameter

/-- The body that an operation takes. -/
structure RequestBody where
  description : Option String := none
  content : Table MediaType := {}
  required : Bool := false
  extensions : Table Json := {}
deriving Inhabited

/-- A request body, or a reference to one. -/
abbrev RequestBodyRef := Referable RequestBody

namespace RequestBody

/-- Reads a request body. -/
def read? (t : Tree) : Option RequestBody := do
  let f ← Fields.open? ["description", "content", "required"] t
  return {
    description := ← f.optional? "description" Tree.text?
    content := ← f.defaulted? "content" (Tree.table? MediaType.read?) {}
    required := ← f.defaulted? "required" Tree.bool? false
    extensions := ← f.extensions? }

/-- Reads a request body or a reference to one. -/
def readRef? (t : Tree) : Option RequestBodyRef := Referable.read? read? t

/-- A request body as a value. -/
def toJson (b : RequestBody) : Json :=
  .object ([("content", Json.ofTable b.content MediaType.toJson), ("required", .bool b.required)] ++
    Json.member? "description" b.description .string ++
    b.extensions.entries)

/-- A request body or a reference as a value. -/
def refJson (b : RequestBodyRef) : Json := b.toJson toJson

end RequestBody

end ApiLowering
