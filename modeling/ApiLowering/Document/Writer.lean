import ApiLowering.Document.Basic

/-!
# Writing documents

## Main definitions

* `Document.toJson` — a document as a free-form value.
* `Document.same` — equality up to the order of keys.
-/

namespace ApiLowering

/-- Contact information as a value. -/
def Contact.toJson (c : Contact) : Json :=
  .object (Json.member? "name" c.name .string ++ Json.member? "url" c.url .string ++
    Json.member? "email" c.email .string)

/-- A licence as a value. -/
def License.toJson (l : License) : Json :=
  .object ([("name", .string l.name)] ++ Json.member? "url" l.url .string)

/-- What the API is, as a value. -/
def Info.toJson (i : Info) : Json :=
  .object ([("title", .string i.title), ("version", .string i.version)] ++
    Json.member? "description" i.description .string ++
    Json.member? "termsOfService" i.termsOfService .string ++
    Json.member? "contact" i.contact Contact.toJson ++
    Json.member? "license" i.license License.toJson)

/-- A variable of a server as a value. -/
def ServerVariable.toJson (v : ServerVariable) : Json :=
  .object ([("default", .string v.fallback)] ++
    Json.member? "description" v.description .string ++
    Json.listMember "enum" v.choices .string)

/-- A server as a value. -/
def Server.toJson (s : Server) : Json :=
  .object ([("url", .string s.url)] ++
    Json.member? "description" s.description .string ++
    Json.tableMember "variables" s.addressVariables ServerVariable.toJson)

/-- A tag as a value. -/
def Tag.toJson (t : Tag) : Json :=
  .object ([("name", .string t.name)] ++ Json.member? "description" t.description .string)

/-- An operation as a value. -/
def Operation.toJson (op : Operation) : Json :=
  .object (Json.member? "operationId" op.operationId .string ++
    Json.member? "summary" op.summary .string ++
    Json.member? "description" op.description .string ++
    Json.listMember "tags" op.tags .string ++
    Json.listMember "parameters" op.parameters Parameter.refJson ++
    Json.member? "requestBody" op.requestBody RequestBody.refJson ++
    Json.tableMember "responses" op.responses Response.refJson ++
    Json.member? "deprecated" op.deprecated .bool ++
    Json.member? "security" op.security (fun rs => .array (rs.map SecurityRequirement.toJson)) ++
    Json.tableMember "callbacks" op.callbacks id ++
    op.extensions.entries)

/-- A path as a value. -/
def PathItem.toJson (p : PathItem) : Json :=
  .object (Json.member? "summary" p.summary .string ++
    Json.member? "description" p.description .string ++
    Json.listMember "parameters" p.parameters Parameter.refJson ++
    p.operations.map (fun (m, op) => (Text.asciiLower m.text, op.toJson)) ++
    p.extensions.entries)

/-- The components as a value. -/
def Components.toJson (c : Components) : Json :=
  .object (Json.tableMember "schemas" c.schemas Schema.refJson ++
    Json.tableMember "responses" c.responses Response.refJson ++
    Json.tableMember "parameters" c.parameters Parameter.refJson ++
    Json.tableMember "examples" c.samples id ++
    Json.tableMember "requestBodies" c.requestBodies RequestBody.refJson ++
    Json.tableMember "headers" c.headers Header.refJson ++
    Json.tableMember "securitySchemes" c.securitySchemes SecurityScheme.toJson ++
    Json.tableMember "links" c.links id ++
    Json.tableMember "callbacks" c.callbacks id)

namespace Document

/-- A document as a value. -/
def toJson (d : Document) : Json :=
  .object ([("openapi", .string d.openapi), ("info", d.info.toJson)] ++
    Json.listMember "servers" d.servers Server.toJson ++
    Json.tableMember "paths" d.paths PathItem.toJson ++
    Json.tableMember "webhooks" d.webhooks PathItem.toJson ++
    Json.member? "components" d.components Components.toJson ++
    Json.listMember "tags" d.tags Tag.toJson ++
    Json.member? "security" d.security (fun rs => .array (rs.map SecurityRequirement.toJson)) ++
    Json.member? "externalDocs" d.externalDocs id ++
    d.extensions.entries)

/-- Equality up to the order of keys. -/
def same (d e : Document) : Bool := d.toJson.same e.toJson

end Document

end ApiLowering
