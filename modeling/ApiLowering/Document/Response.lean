import ApiLowering.Document.Content

/-!
# Responses and headers

## Main definitions

* `Header` — a header of a response.
* `Response`, `ResponseRef` — a response; a reference to one may bring its own description.
-/

namespace ApiLowering

/-- A header of a response. -/
structure Header where
  description : Option String := none
  required : Bool := false
  deprecated : Option Bool := none
  schema : Option SchemaRef := none
  sample : Option Json := none
  extensions : Table Json := {}
deriving Inhabited

/-- A header, or a reference to one. -/
abbrev HeaderRef := Referable Header

namespace Header

/-- Reads a header. -/
def read? (t : Tree) : Option Header := do
  let f ← Fields.open? ["description", "required", "deprecated", "schema", "example"] t
  return {
    description := ← f.optional? "description" Tree.text?
    required := ← f.defaulted? "required" Tree.bool? false
    deprecated := ← f.optional? "deprecated" Tree.bool?
    schema := ← f.optional? "schema" Schema.readRef?
    sample := ← f.optional? "example" Tree.toJson?
    extensions := ← f.extensions? }

/-- Reads a header or a reference to one. -/
def readRef? (t : Tree) : Option HeaderRef := Referable.read? read? t

/-- A header as a value. -/
def toJson (h : Header) : Json :=
  .object ([("required", .bool h.required)] ++
    Json.member? "description" h.description .string ++
    Json.member? "deprecated" h.deprecated .bool ++
    Json.member? "schema" h.schema Schema.refJson ++
    Json.member? "example" h.sample id ++
    h.extensions.entries)

/-- A header or a reference as a value. -/
def refJson (h : HeaderRef) : Json := h.toJson toJson

end Header

/-- A response of an operation. -/
structure Response where
  description : String := ""
  content : Table MediaType := {}
  headers : Table HeaderRef := {}
  links : Table Json := {}
  extensions : Table Json := {}
deriving Inhabited

/-- A response, or a reference to one. The description beside a reference takes precedence. -/
inductive ResponseRef where
  | ref (path : String) (description : Option String)
  | inline (response : Response)
deriving Inhabited

namespace Response

/-- Reads a response. -/
def read? (t : Tree) : Option Response := do
  let f ← Fields.open? ["description", "content", "headers", "links"] t
  return {
    description := ← f.defaulted? "description" Tree.text? ""
    content := ← f.defaulted? "content" (Tree.table? MediaType.read?) {}
    headers := ← f.defaulted? "headers" (Tree.table? Header.readRef?) {}
    links := ← f.defaulted? "links" (Tree.table? Tree.toJson?) {}
    extensions := ← f.extensions? }

/-- The reference of a record that is one: a textual path, and a description if any that is a text
and not repeated. -/
def reference? (es : List (Leaf × Tree)) : Option ResponseRef := do
  let f ← Fields.ofRecord? ["$ref", "description"] (.record es)
  return .ref (← f.required? "$ref" Tree.text?) (← f.optional? "description" Tree.text?)

/-- Reads a response or a reference to one. -/
def readRef? (t : Tree) : Option ResponseRef :=
  match t.settle? with
  | some (.record es) =>
    match reference? es with
    | some r => some r
    | none => (read? (.record es)).map .inline
  | _ => none

/-- A response as a value. -/
def toJson (r : Response) : Json :=
  .object ([("description", .string r.description)] ++
    Json.tableMember "content" r.content MediaType.toJson ++
    Json.tableMember "headers" r.headers Header.refJson ++
    Json.tableMember "links" r.links id ++
    r.extensions.entries)

/-- A response or a reference as a value. -/
def refJson : ResponseRef → Json
  | .ref path description =>
    .object ([("$ref", .string path)] ++ Json.member? "description" description .string)
  | .inline r => r.toJson

end Response

end ApiLowering
