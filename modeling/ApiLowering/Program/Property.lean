import ApiLowering.Program.Facets

/-!
# Properties

A property is a field of a model, the items of a container or a header of a response.

## Main definitions

* `Property` — a property; the items of a container are a property of their own.
* `Property.innermost` — the innermost items of nested containers.
* `Property.toJson` — a property as a free-form value.
-/

namespace ApiLowering

/-- What the templates of a property want to know besides. -/
structure PropertyFacets where
  inRequiredArgsConstructor : Bool := false
  isServer : Bool := false
  lombok : Bool := false
  defaultValueIsNotNull : Bool := false
  withValid : Bool := false
  /-- The type with annotations on its type arguments. -/
  annotatedType : String := ""
  /-- The same, with the names of enumerations. -/
  annotatedTypeWithEnum : String := ""
  isServerOrNotReadOnly : Option Bool := none
  implemented : List String := []
  groovyExample : Option String := none
  annotations : ExtraAnnotations := {}
deriving Repr, DecidableEq, Inhabited

/-- A field of a model, the items of a container or a header of a response. -/
structure Property where
  name : String := ""
  /-- The name in the document. -/
  baseName : String := ""
  realName : String := ""
  nameInCamelCase : String := ""
  nameInSnakeCase : String := ""
  getter : String := ""
  setter : String := ""
  description : Option String := none
  title : Option String := none
  type : TypeFacts := {}
  /-- Whether the values are enumerated here. -/
  isEnum : Bool := false
  isNullable : Bool := false
  required : Bool := false
  isReadOnly : Bool := false
  isWriteOnly : Bool := false
  isDiscriminator : Bool := false
  /-- Whether an ancestor has a property of the same name. -/
  isOverridden : Bool := false
  deprecated : Bool := false
  defaultValue : Option String := none
  /-- What initializes the field. -/
  initializer : Option String := none
  sample : Option String := none
  constraints : Constraints := {}
  formatPattern : Option String := none
  enumConstants : List EnumConstant := []
  items : Option Property := none
  facets : PropertyFacets := {}
  vendorExtensions : Table Json := ⟨[]⟩
deriving Inhabited

/-- The facets as a value. -/
def PropertyFacets.toJson (f : PropertyFacets) : Json :=
  .object (flagMembers [("inRequiredArgsConstructor", f.inRequiredArgsConstructor),
      ("isServer", f.isServer), ("lombok", f.lombok),
      ("defaultValueIsNotNull", f.defaultValueIsNotNull), ("withValid", f.withValid)] ++
    [("typeWithGenericAnnotations", .string f.annotatedType),
      ("typeWithEnumWithGenericAnnotations", .string f.annotatedTypeWithEnum),
      ("annotations", f.annotations.toJson)] ++
    Json.member? "isServerOrNotReadOnly" f.isServerOrNotReadOnly .bool ++
    Json.listMember "xImplements" f.implemented .string ++
    Json.member? "groovyExample" f.groovyExample .string)

namespace Property

/-- The innermost items of nested containers. -/
def innermost : Property → Property
  | p@{ items, .. } =>
    match items with
    | some inner => inner.innermost
    | none => p

/-- Whether the property is a model, or a container with models at its bottom. -/
def refersToModel (p : Property) : Bool := p.innermost.type.isModel

/-- The members of a property apart from its items. -/
def members (p : Property) : List (String × Json) :=
  [("name", .string p.name), ("baseName", .string p.baseName), ("realName", .string p.realName),
    ("nameInCamelCase", .string p.nameInCamelCase),
    ("nameInSnakeCase", .string p.nameInSnakeCase), ("getter", .string p.getter),
    ("setter", .string p.setter), ("dataType", .string p.type.dataType),
    ("datatypeWithEnum", .string p.type.datatypeWithEnum),
    ("baseType", .string p.type.baseType), ("openApiType", .string p.type.openApiType)] ++
  flagMembers (p.type.flags.named ++
    [("isContainer", p.type.isContainer), ("isArray", p.type.isArray), ("isMap", p.type.isMap),
      ("uniqueItems", p.type.uniqueItems), ("isModel", p.type.isModel), ("isEnum", p.isEnum),
      ("isEnumRef", p.type.isEnumRef), ("isNullable", p.isNullable), ("required", p.required),
      ("isReadOnly", p.isReadOnly), ("isWriteOnly", p.isWriteOnly),
      ("isDiscriminator", p.isDiscriminator), ("isOverridden", p.isOverridden),
      ("deprecated", p.deprecated)]) ++
  Json.member? "description" p.description .string ++
  Json.member? "title" p.title .string ++
  Json.member? "complexType" p.type.complexType .string ++
  Json.member? "containerType" p.type.containerType .string ++
  Json.member? "defaultValue" p.defaultValue .string ++
  Json.member? "defaultValueInit" p.initializer .string ++
  Json.member? "example" p.sample .string ++
  p.constraints.members ++
  Json.member? "formatPattern" p.formatPattern .string ++
  Json.listMember "enumVars" p.enumConstants EnumConstant.toJson ++
  [("facets", p.facets.toJson), ("vendorExtensions", Json.ofTable p.vendorExtensions id)]

mutual

/-- A property as a value. -/
def toJson : Property → Json
  | p@{ items, .. } => .object (p.members ++ itemsMember items)

/-- The member of the items. -/
def itemsMember : Option Property → List (String × Json)
  | none => []
  | some inner => [("items", toJson inner)]

end

end Property

end ApiLowering
