import ApiLowering.Document.Basic
import ApiLowering.Json.Reader
import ApiLowering.Yaml.Reader

/-!
# Reading documents

## Main definitions

* `Document.ofTree?` — the document of a parsed text.
* `Document.ofJsonText`, `Document.ofYamlText` — the document of a text in one format.
* `Document.load` — the document of a text in the format that its first character announces.
-/

namespace ApiLowering

/-! ## Parts -/

/-- Reads contact information. -/
def Contact.read? (t : Tree) : Option Contact := do
  let f ← Fields.closed? ["name", "url", "email"] t
  return {
    name := ← f.optional? "name" Tree.text?
    url := ← f.optional? "url" Tree.text?
    email := ← f.optional? "email" Tree.text? }

/-- Reads a licence. -/
def License.read? (t : Tree) : Option License := do
  let f ← Fields.closed? ["name", "url"] t
  return {
    name := ← f.required? "name" Tree.text?
    url := ← f.optional? "url" Tree.text? }

/-- Reads what the API is. -/
def Info.read? (t : Tree) : Option Info := do
  let f ← Fields.closed? ["title", "description", "version", "termsOfService", "contact",
    "license"] t
  return {
    title := ← f.required? "title" Tree.text?
    description := ← f.optional? "description" Tree.text?
    version := ← f.required? "version" Tree.text?
    termsOfService := ← f.optional? "termsOfService" Tree.text?
    contact := ← f.optional? "contact" Contact.read?
    license := ← f.optional? "license" License.read? }

/-- Reads a variable of a server. -/
def ServerVariable.read? (t : Tree) : Option ServerVariable := do
  let f ← Fields.closed? ["default", "description", "enum"] t
  return {
    fallback := ← f.required? "default" Tree.text?
    description := ← f.optional? "description" Tree.text?
    choices := ← f.defaulted? "enum" Tree.texts? [] }

/-- Reads a server. -/
def Server.read? (t : Tree) : Option Server := do
  let f ← Fields.closed? ["url", "description", "variables"] t
  return {
    url := ← f.required? "url" Tree.text?
    description := ← f.optional? "description" Tree.text?
    addressVariables := ← f.defaulted? "variables" (Tree.table? ServerVariable.read?) {} }

/-- Reads a tag. -/
def Tag.read? (t : Tree) : Option Tag := do
  let f ← Fields.closed? ["name", "description"] t
  return {
    name := ← f.required? "name" Tree.text?
    description := ← f.optional? "description" Tree.text? }

/-- Reads an operation. -/
def Operation.read? (t : Tree) : Option Operation := do
  let f ← Fields.open? ["operationId", "summary", "description", "tags", "parameters",
    "requestBody", "responses", "deprecated", "security", "callbacks"] t
  return {
    operationId := ← f.optional? "operationId" Tree.text?
    summary := ← f.optional? "summary" Tree.text?
    description := ← f.optional? "description" Tree.text?
    tags := ← f.defaulted? "tags" Tree.texts? []
    parameters := ← f.defaulted? "parameters" (Tree.listOf? Parameter.readRef?) []
    requestBody := ← f.optional? "requestBody" RequestBody.readRef?
    responses := ← f.defaulted? "responses" (Tree.table? Response.readRef?) {}
    deprecated := ← f.optional? "deprecated" Tree.bool?
    security := ← f.optional? "security" (Tree.listOf? SecurityRequirement.read?)
    callbacks := ← f.defaulted? "callbacks" (Tree.table? Tree.toJson?) {}
    extensions := ← f.extensions? }

/-- Reads a path. -/
def PathItem.read? (t : Tree) : Option PathItem := do
  let f ← Fields.open? ["summary", "description", "parameters", "get", "put", "post", "delete",
    "options", "head", "patch", "trace"] t
  return {
    summary := ← f.optional? "summary" Tree.text?
    description := ← f.optional? "description" Tree.text?
    parameters := ← f.defaulted? "parameters" (Tree.listOf? Parameter.readRef?) []
    get := ← f.optional? "get" Operation.read?
    put := ← f.optional? "put" Operation.read?
    post := ← f.optional? "post" Operation.read?
    delete := ← f.optional? "delete" Operation.read?
    options := ← f.optional? "options" Operation.read?
    head := ← f.optional? "head" Operation.read?
    patch := ← f.optional? "patch" Operation.read?
    trace := ← f.optional? "trace" Operation.read?
    extensions := ← f.extensions? }

/-- Reads the components. -/
def Components.read? (t : Tree) : Option Components := do
  let f ← Fields.closed? ["schemas", "responses", "parameters", "examples", "requestBodies",
    "headers", "securitySchemes", "links", "callbacks"] t
  return {
    schemas := ← f.defaulted? "schemas" (Tree.table? Schema.readRef?) {}
    responses := ← f.defaulted? "responses" (Tree.table? Response.readRef?) {}
    parameters := ← f.defaulted? "parameters" (Tree.table? Parameter.readRef?) {}
    samples := ← f.defaulted? "examples" (Tree.table? Tree.toJson?) {}
    requestBodies := ← f.defaulted? "requestBodies" (Tree.table? RequestBody.readRef?) {}
    headers := ← f.defaulted? "headers" (Tree.table? Header.readRef?) {}
    securitySchemes := ← f.defaulted? "securitySchemes" (Tree.table? SecurityScheme.read?) {}
    links := ← f.defaulted? "links" (Tree.table? Tree.toJson?) {}
    callbacks := ← f.defaulted? "callbacks" (Tree.table? Tree.toJson?) {} }

/-! ## Documents -/

/-- Why a text is no document. -/
inductive ParseError where
  | json
  | yaml
  | unsupportedVersion (version : String)
deriving Repr, DecidableEq

namespace ParseError

/-- The wording of an error, where its wording is fixed. -/
def message? : ParseError → Option String
  | json => none
  | yaml => none
  | unsupportedVersion version => some s!"unsupported OpenAPI version: {version}"

end ParseError

namespace Document

/-- The document of a parsed text. -/
def ofTree? (t : Tree) : Option Document := do
  let f ← Fields.open? ["openapi", "info", "servers", "paths", "webhooks", "components", "tags",
    "security", "externalDocs"] t
  return {
    openapi := ← f.required? "openapi" Tree.text?
    info := ← f.required? "info" Info.read?
    servers := ← f.defaulted? "servers" (Tree.listOf? Server.read?) []
    paths := ← f.defaulted? "paths" (Tree.table? PathItem.read?) {}
    webhooks := ← f.defaulted? "webhooks" (Tree.table? PathItem.read?) {}
    components := ← f.optional? "components" Components.read?
    tags := ← f.defaulted? "tags" (Tree.listOf? Tag.read?) []
    security := ← f.optional? "security" (Tree.listOf? SecurityRequirement.read?)
    externalDocs := ← f.optional? "externalDocs" Tree.toJson?
    extensions := ← f.extensions? }

/-- The document, provided that it follows the third version of the specification. -/
def checkVersion (d : Document) : Except ParseError Document :=
  if Text.startsWith d.openapi "3." then .ok d else .error (.unsupportedVersion d.openapi)

/-- The document of a JSON text. -/
def ofJsonText (s : String) : Except ParseError Document :=
  match (Json.readTree? s).bind ofTree? with
  | some d => d.checkVersion
  | none => .error .json

/-- The document of a YAML text. -/
def ofYamlText (s : String) : Except ParseError Document :=
  match (Yaml.readTree? s).bind ofTree? with
  | some d => d.checkVersion
  | none => .error .yaml

/-- The document of a text: JSON if its first character that is no white space opens an object, YAML
otherwise. -/
def load (s : String) : Except ParseError Document :=
  if (s.toList.dropWhile Text.isBlank).head? == some '\x7b' then ofJsonText s else ofYamlText s

end Document

end ApiLowering
