import ApiLowering.Document.Fields
import ApiLowering.NameSet

/-!
# Facets of generated types

What properties, arguments, outcomes and models of the generated program have in common.

## Main definitions

* `TypeFlags`, `TypeFacts` — what a type is, and how it is spelled.
* `Constraints` — the limits on a value.
* `EnumConstant` — a constant of an enumeration.
* `ExtraAnnotations` — annotations of the caller's choice.
* `SwaggerFlags` — which annotations describe the API.
-/

namespace ApiLowering

/-! ## Types -/

/-- What kind of value a type describes. -/
structure TypeFlags where
  isPrimitive : Bool := false
  isNumeric : Bool := false
  isNumber : Bool := false
  isInteger : Bool := false
  isShort : Bool := false
  isLong : Bool := false
  isFloat : Bool := false
  isDouble : Bool := false
  isDecimal : Bool := false
  isString : Bool := false
  isBoolean : Bool := false
  isDate : Bool := false
  isDateTime : Bool := false
  isUuid : Bool := false
  isUri : Bool := false
  isBinary : Bool := false
  isByteArray : Bool := false
  isFile : Bool := false
  isChar : Bool := false
  isByte : Bool := false
  isEmail : Bool := false
  isAnyType : Bool := false
  isFreeFormObject : Bool := false
deriving Repr, DecidableEq, Inhabited

/-- The flags with their names. -/
def TypeFlags.named (f : TypeFlags) : List (String × Bool) :=
  [("isPrimitive", f.isPrimitive), ("isNumeric", f.isNumeric), ("isNumber", f.isNumber),
    ("isInteger", f.isInteger), ("isShort", f.isShort), ("isLong", f.isLong),
    ("isFloat", f.isFloat), ("isDouble", f.isDouble), ("isDecimal", f.isDecimal),
    ("isString", f.isString), ("isBoolean", f.isBoolean), ("isDate", f.isDate),
    ("isDateTime", f.isDateTime), ("isUuid", f.isUuid), ("isUri", f.isUri),
    ("isBinary", f.isBinary), ("isByteArray", f.isByteArray), ("isFile", f.isFile),
    ("isChar", f.isChar), ("isByte", f.isByte), ("isEmail", f.isEmail),
    ("isAnyType", f.isAnyType), ("isFreeFormObject", f.isFreeFormObject)]

/-- Named switches as members. -/
def flagMembers (flags : List (String × Bool)) : List (String × Json) :=
  flags.map fun (name, b) => (name, .bool b)

/-- How a type is spelled and what it is made of. -/
structure TypeFacts where
  dataType : String := ""
  /-- The same, with the name of an enumeration in the place of its values' type. -/
  datatypeWithEnum : String := ""
  baseType : String := ""
  openApiType : String := ""
  /-- The class of the innermost items, if it is one. -/
  complexType : Option String := none
  /-- The type of the container, if it is one. -/
  containerType : Option String := none
  flags : TypeFlags := {}
  isContainer : Bool := false
  isArray : Bool := false
  isMap : Bool := false
  uniqueItems : Bool := false
  isModel : Bool := false
  isEnumRef : Bool := false
deriving Repr, DecidableEq, Inhabited

/-! ## Values -/

/-- The limits on a value. Bounds are texts, since they go into the program as they are. -/
structure Constraints where
  pattern : Option String := none
  minLength : Option Nat := none
  maxLength : Option Nat := none
  minimum : Option String := none
  maximum : Option String := none
  exclusiveMinimum : Bool := false
  exclusiveMaximum : Bool := false
  minItems : Option Nat := none
  maxItems : Option Nat := none
deriving Repr, DecidableEq, Inhabited

/-- The limits as members. -/
def Constraints.members (c : Constraints) : List (String × Json) :=
  flagMembers [("exclusiveMinimum", c.exclusiveMinimum),
    ("exclusiveMaximum", c.exclusiveMaximum)] ++
  Json.member? "pattern" c.pattern .string ++
  Json.member? "minLength" c.minLength .ofNat ++
  Json.member? "maxLength" c.maxLength .ofNat ++
  Json.member? "minimum" c.minimum .string ++
  Json.member? "maximum" c.maximum .string ++
  Json.member? "minItems" c.minItems .ofNat ++
  Json.member? "maxItems" c.maxItems .ofNat

/-- A constant of an enumeration. -/
structure EnumConstant where
  name : String
  /-- What initializes the constant. -/
  value : String
  /-- The value as the document has it. -/
  rawValue : String
  isString : Bool
  deprecated : Bool
deriving Repr, DecidableEq, Inhabited

/-- A constant as a value. -/
def EnumConstant.toJson (c : EnumConstant) : Json :=
  .object [("name", .string c.name), ("value", .string c.value), ("rawValue", .string c.rawValue),
    ("isString", .bool c.isString), ("deprecated", .bool c.deprecated)]

/-! ## Annotations -/

/-- Annotations of the caller's choice. -/
structure ExtraAnnotations where
  onClass : List String := []
  onField : List String := []
  onSetter : List String := []
  onOperation : List String := []
deriving Repr, DecidableEq, Inhabited

/-- Annotations as a value. -/
def ExtraAnnotations.toJson (a : ExtraAnnotations) : Json :=
  .object (Json.listMember "class" a.onClass .string ++
    Json.listMember "field" a.onField .string ++
    Json.listMember "setter" a.onSetter .string ++
    Json.listMember "operation" a.onOperation .string)

/-- Which annotations describe the API. -/
structure SwaggerFlags where
  annotated : Bool := false
  version1 : Bool := false
  version2 : Bool := false
deriving Repr, DecidableEq, Inhabited

/-- The flags as members. -/
def SwaggerFlags.members (f : SwaggerFlags) : List (String × Json) :=
  flagMembers [("generateSwaggerAnnotations", f.annotated),
    ("generateSwagger1Annotations", f.version1), ("generateSwagger2Annotations", f.version2)]

/-- A set of names as a value. -/
def NameSet.toJson (s : NameSet) : Json := .ofStrings s.names

end ApiLowering
