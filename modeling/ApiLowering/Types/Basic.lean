import ApiLowering.Dialect.Basic
import ApiLowering.Document.Schema.Basic
import ApiLowering.Program.Endpoint
import ApiLowering.Program.Model

/-!
# Resolved types

The type that a schema stands for in the generated program.

## Main definitions

* `ResolvedType` — a type with the types of its items.
* `ResolvedType.rewrap`, `ResolvedType.setEnumName` — container types follow the types of their
  items.
* `Schema.scalarOverride?` — the scalar that a schema asks for by name.
* `TypeFlags.ofKey` — what the word of a type says about it.
-/

namespace ApiLowering

/-! ## Types and their items -/

/-- The type that a schema stands for. -/
structure ResolvedType where
  facts : TypeFacts := {}
  boxedType : String := ""
  /-- Whether the schema enumerates the values itself. -/
  isInlineEnum : Bool := false
  isOneOf : Bool := false
  items : Option ResolvedType := none
  /-- The type of the keys of a map. -/
  keyType : Option String := none
  imports : NameSet := {}
deriving Inhabited

namespace ResolvedType

/-- The type of a name. -/
def named (name openApiType : String) : ResolvedType where
  facts := { dataType := name, datatypeWithEnum := name, baseType := name, openApiType }
  boxedType := name

/-- Spells a container type from its parts. -/
def spell (facts : TypeFacts) (keyType : Option String) (container inner : String) : String :=
  if facts.isMap then container ++ "<" ++ keyType.getD "String" ++ ", " ++ inner ++ ">"
  else container ++ "<" ++ inner ++ ">"

/-- The container type spelled from the types of its items; other types stay as they are. -/
def rewrap (t : ResolvedType) : ResolvedType :=
  match t.facts.containerType, t.items with
  | some container, some inner =>
    let dataType := spell t.facts t.keyType container inner.facts.dataType
    { t with
      facts.dataType := dataType
      facts.datatypeWithEnum := spell t.facts t.keyType container inner.facts.datatypeWithEnum
      boxedType := dataType }
  | _, _ => t

/-- Gives the innermost items the name of an enumeration, and the containers follow. -/
def setEnumName (enumName : String) : ResolvedType → ResolvedType
  | t@{ items, .. } =>
    match items with
    | some inner => { t with items := some (inner.setEnumName enumName) }.rewrap
    | none => { t with facts.datatypeWithEnum := enumName }

/-- The innermost items of nested containers. -/
def innermost : ResolvedType → ResolvedType
  | t@{ items, .. } =>
    match items with
    | some inner => inner.innermost
    | none => t

end ResolvedType

/-! ## Scalars by name -/

/-- A scalar that replaces the type of a schema. -/
structure ScalarOverride where
  dataType : String
  baseType : String
  isPrimitive : Bool
  scalar : Primitive
deriving Repr, DecidableEq

namespace Schema

/-- The word for the type, from its extension first. -/
def typeWord (s : Schema) : String :=
  match s.extensionText? "x-type", s.primaryType with
  | some t, _ => t
  | none, some t => t.text
  | none, none => "object"

/-- The word for the format, from its extension first. -/
def formatWord (s : Schema) : String :=
  match s.extensionText? "x-format", s.keywords.format with
  | some f, _ => f
  | none, some f => f
  | none, none => "object"

/-- The scalar that a schema asks for: by the name of its type, or by the format of an integer. -/
def scalarOverride? (s : Schema) (d : Dialect) : Option ScalarOverride :=
  let boxedOnly (scalar : Primitive) : ScalarOverride :=
    ⟨(d.scalar scalar).boxed, (d.scalar scalar).boxed, false, scalar⟩
  if s.typeWord == "integer" then
    if ["int8", "byte"].contains s.formatWord then some (boxedOnly .byte)
    else if ["int16", "short"].contains s.formatWord then some (boxedOnly .short)
    else none
  else
    (Primitive.ofText? s.typeWord).map fun scalar =>
      let name := d.scalar scalar
      ⟨name.boxed, name.primitive.getD name.boxed, name.primitive.isSome, scalar⟩

end Schema

/-! ## Flags -/

namespace TypeFlags

/-- What a scalar says about a type. -/
def ofScalar (scalar : Primitive) (isPrimitive : Bool) : TypeFlags :=
  let isNumber := scalar != .char
  { isPrimitive
    isNumeric := isNumber
    isNumber
    isChar := scalar == .char
    isByte := scalar == .byte
    isInteger := scalar == .byte || scalar == .int
    isShort := scalar == .short
    isLong := scalar == .long
    isFloat := scalar == .float
    isDouble := scalar == .double }

/-- What the word of a type says about it. -/
def ofKey (key : String) : TypeFlags :=
  match key with
  | "integer" => { isInteger := true, isNumeric := true }
  | "long" => { isLong := true, isNumeric := true }
  | "number" => { isNumber := true, isDecimal := true, isNumeric := true }
  | "decimal" => { isNumber := true, isDecimal := true, isNumeric := true }
  | "float" => { isFloat := true, isNumeric := true }
  | "double" => { isDouble := true, isNumeric := true }
  | "boolean" => { isBoolean := true }
  | "string" => { isString := true }
  | "date" => { isDate := true }
  | "DateTime" => { isDateTime := true }
  | "UUID" => { isUuid := true }
  | "URI" => { isUri := true }
  | "ByteArray" => { isByteArray := true }
  | "binary" => { isBinary := true, isFile := true }
  | "file" => { isBinary := true, isFile := true }
  | "responseFile" => { isBinary := true, isFile := true }
  | "object" => { isFreeFormObject := true }
  | "AnyType" => { isAnyType := true }
  | _ => {}

end TypeFlags

/-! ## Carriers of types -/

/-- A model takes a type on. -/
def Model.withType (m : Model) (t : ResolvedType) : Model :=
  { m with dataType := t.facts.dataType, flags := t.facts.flags }

/-- A property takes a type on. -/
def Property.withType (p : Property) (t : ResolvedType) : Property := { p with type := t.facts }

/-- An argument takes a type on. -/
def Argument.withType (a : Argument) (t : ResolvedType) : Argument := { a with type := t.facts }

/-- An outcome takes a type on. -/
def Outcome.withType (r : Outcome) (t : ResolvedType) : Outcome := { r with type := some t.facts }

end ApiLowering
