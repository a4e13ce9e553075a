import ApiLowering.Document.Schema.Basic
import ApiLowering.Document.Fields

/-!
# Writing schemas

The free-form value of a schema. Keywords without a value are left out, and so are empty lists and
tables. Two schemas are the same if they are written alike; the order of keys does not matter. A
reference is never the same as a schema, even if that has the keyword `$ref` among its unknown ones.

## Main definitions

* `Schema.write` — a schema, for a way to write references.
* `Schema.toJson`, `Schema.refJson` — a schema, a schema or a reference to one.
* `Schema.same`, `Schema.sameRef` — equality up to the order of keys.
* `Schema.isEmpty` — whether no keyword has a value.
-/

namespace ApiLowering

/-! ## Keywords without schemas -/

/-- A type keyword as a value. -/
def TypeSet.toJson : TypeSet → Json
  | .one t => .string t.text
  | .several ts => .ofStrings (ts.map SchemaType.text)

/-- A discriminator as a value. -/
def Discriminator.toJson (d : Discriminator) : Json :=
  .object ([("propertyName", .string d.propertyName)] ++
    Json.tableMember "mapping" d.mapping .string)

/-- The members of the keywords without schemas. -/
def Keywords.members (k : Keywords) : List (String × Json) :=
  Json.member? "type" k.types TypeSet.toJson ++
  Json.member? "format" k.format .string ++
  Json.member? "title" k.title .string ++
  Json.member? "description" k.description .string ++
  Json.member? "default" k.defaultValue id ++
  Json.member? "nullable" k.nullable .bool ++
  Json.member? "deprecated" k.deprecated .bool ++
  Json.listMember "required" k.required .string ++
  Json.member? "discriminator" k.discriminator Discriminator.toJson ++
  Json.listMember "enum" k.enumValues id ++
  Json.member? "minimum" k.minimum .number ++
  Json.member? "maximum" k.maximum .number ++
  Json.member? "exclusiveMinimum" k.exclusiveMinimum id ++
  Json.member? "exclusiveMaximum" k.exclusiveMaximum id ++
  Json.member? "minLength" k.minLength .ofNat ++
  Json.member? "maxLength" k.maxLength .ofNat ++
  Json.member? "pattern" k.pattern .string ++
  Json.member? "minItems" k.minItems .ofNat ++
  Json.member? "maxItems" k.maxItems .ofNat ++
  Json.member? "uniqueItems" k.uniqueItems .bool ++
  Json.member? "readOnly" k.readOnly .bool ++
  Json.member? "writeOnly" k.writeOnly .bool ++
  Json.member? "const" k.constValue id ++
  Json.member? "example" k.sample id ++
  Json.member? "examples" k.samples id ++
  Json.member? "externalDocs" k.externalDocs id ++
  k.extensions.entries

/-! ## Schemas -/

/-- A reference as a value. -/
def Reference.toJson (path : String) : Json := .object [("$ref", .string path)]

/-- A thing or a reference as a value. -/
def Referable.toJson {α : Type} (write : α → Json) : Referable α → Json
  | .ref path => Reference.toJson path
  | .inline value => write value

namespace Schema

section Write

variable (reference : String → Json)

mutual

/-- A schema as a value, for a way to write the references in it. -/
def write : Schema → Json
  | { keywords, properties, items, additional, negated, allOf, oneOf, anyOf } =>
    .object (writeTable properties ++ writeOption "items" items ++ writeAdditional additional ++
      writeOption "not" negated ++ Json.arrayMember "allOf" (writeItems allOf) ++
      Json.arrayMember "oneOf" (writeItems oneOf) ++ Json.arrayMember "anyOf" (writeItems anyOf) ++
      keywords.members)

/-- A schema or a reference as a value. -/
def writeRef : SchemaRef → Json
  | .ref path => reference path
  | .inline s => write s

/-- The member of the properties. -/
def writeTable : Table SchemaRef → List (String × Json)
  | ⟨es⟩ => if es.isEmpty then [] else [("properties", .object (writeEntries es))]

/-- The members of a table. -/
def writeEntries : List (String × SchemaRef) → List (String × Json)
  | [] => []
  | e :: es => writeEntry e :: writeEntries es

/-- One member of a table. -/
def writeEntry : String × SchemaRef → String × Json
  | (k, r) => (k, writeRef r)

/-- The member of one schema. -/
def writeOption (name : String) : Option SchemaRef → List (String × Json)
  | none => []
  | some r => [(name, writeRef r)]

/-- The member of further properties. -/
def writeAdditional : Option (Additional SchemaRef) → List (String × Json)
  | none => []
  | some a => [("additionalProperties", writeValues a)]

/-- Further properties as a value. -/
def writeValues : Additional SchemaRef → Json
  | .allowed b => .bool b
  | .values r => writeRef r

/-- A list of schemas as values. -/
def writeItems : List SchemaRef → List Json
  | [] => []
  | r :: rs => writeRef r :: writeItems rs

end

end Write

/-- A schema as a value. -/
def toJson (s : Schema) : Json := s.write Reference.toJson

/-- A schema or a reference as a value. -/
def refJson (r : SchemaRef) : Json := writeRef Reference.toJson r

/-! ## Equality -/

/-- A schema or a reference as a value that tells the two apart: a reference is its mere path. -/
def form (r : SchemaRef) : Json := writeRef .string r

/-- Equality up to the order of keys. -/
def same (s t : Schema) : Bool := (form (.inline s)).same (form (.inline t))

/-- Equality up to the order of keys, of schemas or references. -/
def sameRef (r s : SchemaRef) : Bool := (form r).same (form s)

/-- Whether no keyword has a value. -/
def isEmpty (s : Schema) : Bool :=
  s.keywords.members.isEmpty && s.properties.isEmpty && s.items.isNone && s.additional.isNone &&
    s.negated.isNone && s.allOf.isEmpty && s.oneOf.isEmpty && s.anyOf.isEmpty

end Schema

end ApiLowering
