import ApiLowering.Document.Reference
import ApiLowering.Json.Basic
import ApiLowering.Table

/-!
# Schemas

A schema describes values. Its keywords that hold no other schema form one record, so that a pass
that only rearranges schemas treats them as one thing; the keywords that hold schemas are the
children of the schema.

## Main definitions

* `SchemaType`, `TypeSet` — the type keyword.
* `Keywords` — the keywords without schemas.
* `Schema` — a schema with its children.
* `Schema.primaryType`, `Schema.isArray`, `Schema.isMap`, … — what kind of thing it describes.
-/

namespace ApiLowering

/-! ## Keywords -/

/-- A basic type. -/
inductive SchemaType where
  | string
  | number
  | integer
  | boolean
  | array
  | object
  | null
deriving Repr, DecidableEq, Inhabited

namespace SchemaType

/-- The name of a type. -/
def text : SchemaType → String
  | string => "string"
  | number => "number"
  | integer => "integer"
  | boolean => "boolean"
  | array => "array"
  | object => "object"
  | null => "null"

/-- All types. -/
def all : List SchemaType := [string, number, integer, boolean, array, object, null]

/-- The type of a name. -/
def ofText? (s : String) : Option SchemaType := all.find? (·.text == s)

end SchemaType

/-- The type keyword: one type or a list of types. -/
inductive TypeSet where
  | one (t : SchemaType)
  | several (ts : List SchemaType)
deriving Repr, DecidableEq, Inhabited

/-- How values of several schemas are told apart. -/
structure Discriminator where
  /-- The property whose value tells. -/
  propertyName : String
  /-- Which value means which schema. -/
  mapping : Table String
deriving Repr, DecidableEq, Inhabited

/-- The keywords of a schema that hold no schemas. -/
structure Keywords where
  types : Option TypeSet := none
  format : Option String := none
  title : Option String := none
  description : Option String := none
  defaultValue : Option Json := none
  nullable : Option Bool := none
  deprecated : Option Bool := none
  required : List String := []
  discriminator : Option Discriminator := none
  enumValues : List Json := []
  minimum : Option Number := none
  maximum : Option Number := none
  exclusiveMinimum : Option Json := none
  exclusiveMaximum : Option Json := none
  minLength : Option Nat := none
  maxLength : Option Nat := none
  pattern : Option String := none
  minItems : Option Nat := none
  maxItems : Option Nat := none
  uniqueItems : Option Bool := none
  readOnly : Option Bool := none
  writeOnly : Option Bool := none
  constValue : Option Json := none
  sample : Option Json := none
  samples : Option Json := none
  externalDocs : Option Json := none
  /-- Every keyword that is not listed above. -/
  extensions : Table Json := {}
deriving Repr, Inhabited

/-! ## Schemas -/

/-- Whether an object may have further properties: a plain answer or the schema of their values. -/
inductive Additional (σ : Type) where
  | allowed (b : Bool)
  | values (schema : σ)
deriving Repr, Inhabited

/-- A schema. -/
structure Schema where
  keywords : Keywords := {}
  properties : Table (Referable Schema) := ⟨[]⟩
  items : Option (Referable Schema) := none
  additional : Option (Additional (Referable Schema)) := none
  negated : Option (Referable Schema) := none
  allOf : List (Referable Schema) := []
  oneOf : List (Referable Schema) := []
  anyOf : List (Referable Schema) := []

instance : Inhabited Schema := ⟨{}⟩

/-- A schema, or a reference to one. -/
abbrev SchemaRef := Referable Schema

namespace Schema

/-! ## What a schema describes -/

/-- The schema of a basic type. -/
def ofType (t : SchemaType) : Schema := { keywords := { types := some (.one t) } }

/-- The first type that is not null; a single type counts in any case. -/
def primaryType (s : Schema) : Option SchemaType :=
  match s.keywords.types with
  | some (.one t) => some t
  | some (.several ts) => ts.find? (· != .null)
  | none => none

/-- Whether a type is the primary one. -/
def isType (s : Schema) (t : SchemaType) : Bool := s.primaryType == some t

/-- Whether null is a value: by its own keyword or among several types. -/
def isNullable (s : Schema) : Bool :=
  s.keywords.nullable == some true ||
    match s.keywords.types with
    | some (.several ts) => ts.contains .null
    | _ => false

/-- Whether values are only sent by the server. -/
def isReadOnly (s : Schema) : Bool := s.keywords.readOnly == some true

/-- Whether the schema is deprecated. -/
def isDeprecated (s : Schema) : Bool := s.keywords.deprecated == some true

/-- Whether the values are enumerated. -/
def isEnum (s : Schema) : Bool := !s.keywords.enumValues.isEmpty

/-- Whether the schema is composed of others. -/
def isComposed (s : Schema) : Bool := !s.allOf.isEmpty || !s.oneOf.isEmpty || !s.anyOf.isEmpty

/-- Whether the schema describes a map and nothing else. -/
def isMap (s : Schema) : Bool :=
  s.properties.isEmpty && !s.isComposed &&
    match s.additional with
    | some (.values _) => true
    | some (.allowed b) => b
    | none => false

/-- Whether the schema describes an array. -/
def isArray (s : Schema) : Bool :=
  s.isType .array || (s.keywords.types.isNone && s.items.isSome)

/-- Whether the schema has properties, parts or a discriminator, so that it lowers to a class of its
own. -/
def isObjectLike (s : Schema) : Bool :=
  !s.properties.isEmpty || s.isComposed || s.keywords.discriminator.isSome

/-- The extension under a key. -/
def extension? (s : Schema) (key : String) : Option Json := s.keywords.extensions.find? key

/-- The text of an extension. -/
def extensionText? (s : Schema) (key : String) : Option String :=
  (s.extension? key).bind Json.string?

/-- Whether an extension is set: true, or its spelling in any case. -/
def extensionSet (s : Schema) (key : String) : Bool :=
  match s.extension? key with
  | some (.bool b) => b
  | some (.string t) => Text.equalsIgnoringCase t "true"
  | _ => false

/-- Whether a bound excludes itself: it is true, or a number of its own. -/
def isExclusiveBound (bound : Option Json) : Bool :=
  match bound with
  | some (.bool b) => b
  | some (.number _) => true
  | _ => false

/-- Whether the lower bound is exclusive. -/
def excludesMinimum (s : Schema) : Bool := isExclusiveBound s.keywords.exclusiveMinimum

/-- Whether the upper bound is exclusive. -/
def excludesMaximum (s : Schema) : Bool := isExclusiveBound s.keywords.exclusiveMaximum

end Schema

end ApiLowering
