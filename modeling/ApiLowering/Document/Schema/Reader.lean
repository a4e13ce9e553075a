import ApiLowering.Document.Schema.Basic
import ApiLowering.Document.Fields

/-!
# Reading schemas

A record with one textual reference is that reference, whatever else it holds. Any other record is a
schema: its known keywords have to be of their types, and its unknown ones are kept.

## Main definitions

* `Keywords.read?` — the keywords without schemas.
* `Schema.readRef?` — a schema or a reference to one.
-/

namespace ApiLowering

/-! ## Keywords without schemas -/

/-- Reads a choice among named values: its name or, where spellings do not count, a record whose
only field is the name over nothing. Instead of the name there may be the position among the
values. -/
def readChoice? {α : Type} (ofText? : String → Option α) (values : List α) : Tree → Option α
  | .leaf l => l.choice?.bind ofText?
  | .record [(k, .leaf ⟨.null, none⟩)] =>
    match k.value with
    | .number n => n.toNat?.bind fun i => values[i]?
    | _ => k.text?.bind ofText?
  | _ => none

/-- Reads a type keyword. -/
def TypeSet.read? (t : Tree) : Option TypeSet :=
  match t with
  | .list xs _ => (xs.mapM (readChoice? SchemaType.ofText? SchemaType.all)).map .several
  | t => (readChoice? SchemaType.ofText? SchemaType.all t).map .one

/-- Reads a discriminator. -/
def Discriminator.read? (t : Tree) : Option Discriminator := do
  let f ← Fields.closed? ["propertyName", "mapping"] t
  return {
    propertyName := ← f.required? "propertyName" Tree.text?
    mapping := ← f.defaulted? "mapping" (Tree.table? Tree.text?) {} }

namespace Keywords

/-- The names of the keywords without schemas. -/
def names : List String :=
  ["type", "format", "title", "description", "default", "nullable", "deprecated", "required",
    "discriminator", "enum", "minimum", "maximum", "exclusiveMinimum", "exclusiveMaximum",
    "minLength", "maxLength", "pattern", "minItems", "maxItems", "uniqueItems", "readOnly",
    "writeOnly", "const", "example", "examples", "externalDocs"]

/-- The names of the keywords with schemas. -/
def childNames : List String :=
  ["properties", "additionalProperties", "items", "allOf", "oneOf", "anyOf", "not"]

/-- Reads the keywords without schemas. -/
def read? (es : List (Leaf × Tree)) : Option Keywords := do
  let f ← Fields.ofEntries? (names ++ childNames) es
  return {
    types := ← f.optional? "type" TypeSet.read?
    format := ← f.optional? "format" Tree.text?
    title := ← f.optional? "title" Tree.text?
    description := ← f.optional? "description" Tree.text?
    defaultValue := ← f.optional? "default" Tree.toJson?
    nullable := ← f.optional? "nullable" Tree.bool?
    deprecated := ← f.optional? "deprecated" Tree.bool?
    required := ← f.defaulted? "required" Tree.texts? []
    discriminator := ← f.optional? "discriminator" Discriminator.read?
    enumValues := ← f.defaulted? "enum" (Tree.listOf? Tree.toJson?) []
    minimum := ← f.optional? "minimum" Tree.number?
    maximum := ← f.optional? "maximum" Tree.number?
    exclusiveMinimum := ← f.optional? "exclusiveMinimum" Tree.toJson?
    exclusiveMaximum := ← f.optional? "exclusiveMaximum" Tree.toJson?
    minLength := ← f.optional? "minLength" Tree.nat?
    maxLength := ← f.optional? "maxLength" Tree.nat?
    pattern := ← f.optional? "pattern" Tree.text?
    minItems := ← f.optional? "minItems" Tree.nat?
    maxItems := ← f.optional? "maxItems" Tree.nat?
    uniqueItems := ← f.optional? "uniqueItems" Tree.bool?
    readOnly := ← f.optional? "readOnly" Tree.bool?
    writeOnly := ← f.optional? "writeOnly" Tree.bool?
    constValue := ← f.optional? "const" Tree.toJson?
    sample := ← f.optional? "example" Tree.toJson?
    samples := ← f.optional? "examples" Tree.toJson?
    externalDocs := ← f.optional? "externalDocs" Tree.toJson?
    extensions := ← f.extensions? }

end Keywords

/-! ## References -/

/-- The path of a reference: the text under a field `$ref` that occurs once. -/
def Reference.path? (es : List (Leaf × Tree)) : Option String := do
  (← Fields.ofRecord? ["$ref"] (.record es)).required? "$ref" Tree.text?

/-- Reads a thing or a reference to one. The spellings of unquoted scalars do not count below such a
place. -/
def Referable.read? {α : Type} (read : Tree → Option α) (t : Tree) : Option (Referable α) :=
  match t.settle? with
  | some (.record es) =>
    match Reference.path? es with
    | some path => some (.ref path)
    | none => (read (.record es)).map .inline
  | _ => none

/-! ## Schemas -/

namespace Schema

/-- A schema that may be null, from its tree and what was read as a schema from that. -/
def optional? (t : Tree) (node : Option SchemaRef) : Option (Option SchemaRef) :=
  match t with
  | .leaf ⟨.null, _⟩ => some none
  | .record _ => node.map some
  | _ => none

/-- Whether further properties are allowed, from a tree and what was read as a schema from that. -/
def additional? (t : Tree) (node : Option SchemaRef) : Option (Option (Additional SchemaRef)) :=
  match t with
  | .leaf ⟨.null, _⟩ => some none
  | .leaf ⟨.bool b, _⟩ => some (some (.allowed b))
  | .record _ => node.map fun r => some (.values r)
  | _ => none

mutual

/-- Reads a schema or a reference to one, from a tree without spellings. -/
def readNode? : Tree → Option SchemaRef
  | .record es =>
    match Reference.path? es with
    | some path => some (.ref path)
    | none => do
      let keywords ← Keywords.read? es
      let s ← readChildren? es
      return .inline { s with keywords }
  | _ => none

/-- Reads the keywords that hold schemas. -/
def readChildren? : List (Leaf × Tree) → Option Schema
  | [] => some {}
  | e :: es => do
    let s ← readChildren? es
    readChild? e s

/-- Reads one keyword that may hold schemas. -/
def readChild? : Leaf × Tree → Schema → Option Schema
  | (k, t), s =>
    match k.text? with
    | some "properties" => (readTable? t).map fun properties => { s with properties }
    | some "items" => (optional? t (readNode? t)).map fun items => { s with items }
    | some "not" => (optional? t (readNode? t)).map fun negated => { s with negated }
    | some "additionalProperties" =>
      (additional? t (readNode? t)).map fun additional => { s with additional }
    | some "allOf" => (readList? t).map fun allOf => { s with allOf }
    | some "oneOf" => (readList? t).map fun oneOf => { s with oneOf }
    | some "anyOf" => (readList? t).map fun anyOf => { s with anyOf }
    | _ => some s

/-- Reads a table of schemas. -/
def readTable? : Tree → Option (Table SchemaRef)
  | .record es => (readEntries? es).map Table.ofList
  | _ => none

/-- Reads the entries of a table. -/
def readEntries? : List (Leaf × Tree) → Option (List (String × SchemaRef))
  | [] => some []
  | e :: es => do
    let p ← readEntry? e
    let ps ← readEntries? es
    return p :: ps

/-- Reads one entry of a table. -/
def readEntry? : Leaf × Tree → Option (String × SchemaRef)
  | (k, t) => do
    let key ← k.text?
    let node ← readNode? t
    return (key, node)

/-- Reads a list of schemas. -/
def readList? : Tree → Option (List SchemaRef)
  | .list xs _ => readItems? xs
  | _ => none

/-- Reads the items of a list. -/
def readItems? : List Tree → Option (List SchemaRef)
  | [] => some []
  | x :: xs => do
    let r ← readNode? x
    let rs ← readItems? xs
    return r :: rs

end

/-- Reads a schema or a reference to one. -/
def readRef? (t : Tree) : Option SchemaRef := t.settle?.bind readNode?

end Schema

end ApiLowering
