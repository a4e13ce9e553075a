import ApiLowering.Types.Basic
import ApiLowering.Types.Models

/-!
# Types of schemas

A reference to a model or to a mapped schema is a type by its name. Any other reference stands for
the schema it leads to, and a schema has the type that its keywords say.

Only references can make a schema refer back to itself, so resolution is recursion on the schema
with the types of references given, and then recursion on the number of references that may be
nested.

## Main definitions

* `Resolver` — what resolution goes by.
* `Resolver.schemaType` — the type of a schema, given the types of references.
* `Resolver.resolve` — the type of a schema or a reference.
-/

namespace ApiLowering

/-- What resolution goes by. -/
structure Resolver where
  setup : Setup
  components : Components
  models : ModelTable
  /-- Whether binary texts are files; otherwise they are arrays of bytes. -/
  binaryAsFile : Bool := true

namespace Resolver

variable (r : Resolver)

/-! ## Types by name -/

/-- The type of a component that has one by its name: it is mapped, or it becomes a model. -/
def namedType? (key : String) : Option ResolvedType :=
  match r.setup.options.schemaMapping.find? key, r.models.find? key with
  | some mapped, _ =>
    let simple := TypeName.simple mapped
    let t := ResolvedType.named simple "object"
    some { t with facts.complexType := some simple, imports := .ofList [simple] }
  | none, some entry =>
    let t := ResolvedType.named entry.classname "object"
    some { t with
      facts.isModel := !entry.isEnum
      facts.isEnumRef := entry.isEnum
      facts.complexType := some entry.classname
      imports := .ofList [entry.classname] }
  | none, none => none

/-- The type of a word. -/
def wordType (key openApiType : String) : Lowering ResolvedType := do
  let mapped ← r.setup.mappedType key
  let t := ResolvedType.named (TypeName.simple mapped) openApiType
  let (_, imports) ← r.setup.importType mapped {}
  return { t with facts.flags := .ofKey key, imports }

/-- The word for the type of texts in a format. -/
def textKey (format : String) : String :=
  match format with
  | "date" => "date"
  | "date-time" => "DateTime"
  | "uuid" => "UUID"
  | "uri" => "URI"
  | "url" => "URI"
  | "byte" => "ByteArray"
  | "binary" => if r.binaryAsFile then "file" else "ByteArray"
  | _ => "string"

/-- The type of texts in a format. -/
def textType (format : String) : Lowering ResolvedType := do
  let t ← r.wordType (r.textKey format) "string"
  return if format == "email" then { t with facts.flags.isEmail := true } else t

/-- The type of a schema that has neither parts nor items. -/
def plainType (s : Schema) : Lowering ResolvedType :=
  let format := s.keywords.format.getD ""
  match s.primaryType with
  | some .integer => r.wordType (if format == "int64" then "long" else "integer") "integer"
  | some .number =>
    r.wordType (if format == "float" || format == "double" then format else "number") "number"
  | some .boolean => r.wordType "boolean" "boolean"
  | some .string => r.textType format
  | some .object => r.wordType "object" "object"
  | _ => r.wordType (if s.properties.isEmpty then "AnyType" else "object") "object"

/-! ## Containers -/

/-- The type of arrays of some items. -/
def arrayType (s : Schema) (items : ResolvedType) : Lowering ResolvedType := do
  let unique := s.keywords.uniqueItems == some true || s.extensionSet "x-set"
  let container ← r.setup.mappedType (if unique then "set" else "array")
  let t : ResolvedType := {
    facts := {
      openApiType := "array"
      containerType := some container
      isContainer := true
      isArray := true
      uniqueItems := unique
      baseType := items.facts.baseType
      complexType := items.facts.complexType }
    items := some items
    imports := (NameSet.ofList [container]).union items.imports }
  return t.rewrap

/-- The type of maps to some values. -/
def mapType (values : ResolvedType) : Lowering ResolvedType := do
  let container ← r.setup.mappedType "map"
  let keyType ← r.setup.mappedType "string"
  let t : ResolvedType := {
    facts := {
      openApiType := "object"
      containerType := some container
      isContainer := true
      isMap := true
      baseType := values.facts.baseType
      complexType := values.facts.complexType }
    keyType := some keyType
    items := some values
    imports := (NameSet.ofList [container]).union values.imports }
  return t.rewrap

/-! ## Schemas -/

/-- The type with the scalar that the schema asks for in its place, and whether the schema
enumerates its values. -/
def overridden (s : Schema) (t : ResolvedType) : Lowering ResolvedType := do
  let t ← match s.scalarOverride? r.setup.dialect, s.extensionText? "x-type" with
    | some o, _ =>
      pure { t with
        facts.dataType := o.dataType
        facts.datatypeWithEnum := o.dataType
        facts.baseType := o.baseType
        facts.flags := .ofScalar o.scalar o.isPrimitive
        boxedType := o.dataType
        imports := {} }
    | none, some word => do
      Lowering.warnOnce ("x-type:" ++ word) s!"unknown x-type '{word}', using the schema type"
      pure t
    | none, none => pure t
  return { t with isInlineEnum := s.isEnum && t.items.isNone }

/-- The reference that a schema is another name for: its only part, if it has no properties. -/
def soleReference? (s : Schema) : Option String :=
  match s.allOf with
  | [.ref path] => if s.properties.isEmpty then some path else none
  | _ => none

mutual

/-- The type of a schema or a reference, given the types of references. -/
def typeOf (lookup : String → Lowering ResolvedType) : SchemaRef → Lowering ResolvedType
  | .ref path => lookup path
  | .inline s => schemaType lookup s

/-- The type of a schema, given the types of references. -/
def schemaType (lookup : String → Lowering ResolvedType) : Schema → Lowering ResolvedType
  | s@{ items, additional, .. } => do
    let t ← match soleReference? s with
      | some path => lookup path
      | none =>
        if !s.oneOf.isEmpty || !s.anyOf.isEmpty then do
          let t ← r.wordType "AnyType" "object"
          pure { t with isOneOf := !s.oneOf.isEmpty }
        else if s.isComposed then r.wordType "object" "object"
        else if s.isArray then do r.arrayType s (← itemsType lookup items)
        else if s.isMap || (s.isType .object && s.properties.isEmpty) then
          valuesType lookup additional
        else r.plainType s
    r.overridden s t

/-- The type of the items of an array. -/
def itemsType (lookup : String → Lowering ResolvedType) :
    Option SchemaRef → Lowering ResolvedType
  | some items => typeOf lookup items
  | none => r.wordType "AnyType" "object"

/-- The type of an object by what is said of further properties. -/
def valuesType (lookup : String → Lowering ResolvedType) :
    Option (Additional SchemaRef) → Lowering ResolvedType
  | some (.values values) => do r.mapType (← typeOf lookup values)
  | some (.allowed true) => do r.mapType (← r.wordType "AnyType" "object")
  | _ => r.wordType "object" "object"

end

/-! ## References -/

/-- The type of a reference, where so many references may be nested. -/
def pathType : Nat → String → Lowering ResolvedType
  | 0, path => throw (Components.circularSchema path)
  | depth + 1, path => do
    let key ← Reference.keyIn "schemas" path
    match r.namedType? key with
    | some t => return t
    | none =>
      let (key, target) ← r.components.schema path
      match r.namedType? key with
      | some t => return t
      | none => r.schemaType (pathType depth) target

/-- The number of references that may be nested: each of them is to another component. -/
def depth : Nat := r.components.schemas.size + 1

/-- The type of a schema or a reference. -/
def resolve (s : SchemaRef) : Lowering ResolvedType := r.typeOf (r.pathType r.depth) s

/-- The type of a schema. -/
def resolveSchema (s : Schema) : Lowering ResolvedType := r.schemaType (r.pathType r.depth) s

end Resolver

end ApiLowering
