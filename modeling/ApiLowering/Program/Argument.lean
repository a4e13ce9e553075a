import ApiLowering.Program.Property

/-!
# Arguments

An argument of a generated method: a parameter of the operation, its body, a field of its form, or
what a mapping puts in the place of others.

## Main definitions

* `Argument` — an argument.
* `Argument.isPlain` — whether it is neither a body nor a field of a form.
* `Argument.toJson` — an argument as a free-form value.
-/

namespace ApiLowering

/-- What the templates of an argument want to know besides. -/
structure ArgumentFacets where
  initializer : Option String := none
  withValid : Bool := false
  /-- The type with annotations on its type arguments. -/
  annotatedType : String := ""
  /-- The same, with the names of enumerations. -/
  annotatedTypeWithEnum : String := ""
  /-- Whether a mapping introduced the argument. -/
  mapped : Bool := false
  hasNotBodyParam : Bool := false
  hasMultipleParams : Bool := false
  groovyExample : Option String := none
deriving Repr, DecidableEq, Inhabited

/-- An argument of a generated method. -/
structure Argument where
  paramName : String := ""
  realName : String := ""
  /-- The name in the document. -/
  baseName : String := ""
  /-- Where a declared parameter travels. -/
  location : Option String := none
  description : Option String := none
  required : Bool := false
  isBody : Bool := false
  isForm : Bool := false
  /-- Whether it is one part of a form in several parts. -/
  isPart : Bool := false
  isHeader : Bool := false
  isPath : Bool := false
  isQuery : Bool := false
  isCookie : Bool := false
  type : TypeFacts := {}
  isEnum : Bool := false
  isNullable : Bool := false
  isDeprecated : Bool := false
  isExplode : Bool := false
  /-- The key of the component schema that was referred to. -/
  refName : Option String := none
  /-- The media type of a body. -/
  contentType : Option String := none
  items : Option Property := none
  defaultValue : Option String := none
  sample : Option String := none
  constraints : Constraints := {}
  formatPattern : Option String := none
  allowableValues : List String := []
  enumConstants : List EnumConstant := []
  facets : ArgumentFacets := {}
  vendorExtensions : Table Json := {}
deriving Inhabited

/-- The facets as a value. -/
def ArgumentFacets.toJson (f : ArgumentFacets) : Json :=
  .object (flagMembers [("withValid", f.withValid), ("mapped", f.mapped),
      ("hasNotBodyParam", f.hasNotBodyParam), ("hasMultipleParams", f.hasMultipleParams)] ++
    [("typeWithGenericAnnotations", .string f.annotatedType),
      ("typeWithEnumWithGenericAnnotations", .string f.annotatedTypeWithEnum)] ++
    Json.member? "defaultValueInit" f.initializer .string ++
    Json.member? "groovyExample" f.groovyExample .string)

namespace Argument

/-- Whether the argument is neither a body nor a field of a form. -/
def isPlain (a : Argument) : Bool := !a.isBody && !a.isForm

/-- An argument as a value. -/
def toJson (a : Argument) : Json :=
  .object ([("paramName", .string a.paramName), ("realName", .string a.realName),
    ("baseName", .string a.baseName), ("dataType", .string a.type.dataType),
    ("datatypeWithEnum", .string a.type.datatypeWithEnum),
    ("baseType", .string a.type.baseType)] ++
  flagMembers (a.type.flags.named ++
    [("required", a.required), ("isBodyParam", a.isBody), ("isFormParam", a.isForm),
      ("isPart", a.isPart), ("isHeaderParam", a.isHeader), ("isPathParam", a.isPath),
      ("isQueryParam", a.isQuery), ("isCookieParam", a.isCookie),
      ("isContainer", a.type.isContainer), ("isArray", a.type.isArray), ("isMap", a.type.isMap),
      ("uniqueItems", a.type.uniqueItems), ("isModel", a.type.isModel), ("isEnum", a.isEnum),
      ("isEnumRef", a.type.isEnumRef), ("isNullable", a.isNullable),
      ("isDeprecated", a.isDeprecated), ("isExplode", a.isExplode)]) ++
  Json.member? "in" a.location .string ++
  Json.member? "description" a.description .string ++
  Json.member? "containerType" a.type.containerType .string ++
  Json.member? "refName" a.refName .string ++
  Json.member? "contentType" a.contentType .string ++
  Json.member? "items" a.items Property.toJson ++
  Json.member? "defaultValue" a.defaultValue .string ++
  Json.member? "example" a.sample .string ++
  a.constraints.members ++
  Json.member? "formatPattern" a.formatPattern .string ++
  Json.listMember "allowableValues" a.allowableValues .string ++
  Json.listMember "enumVars" a.enumConstants EnumConstant.toJson ++
  [("facets", a.facets.toJson), ("vendorExtensions", Json.ofTable a.vendorExtensions id)])

end Argument

end ApiLowering
