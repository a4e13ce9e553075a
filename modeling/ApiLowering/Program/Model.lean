import ApiLowering.Program.Property

/-!
# Models

A model is a class, an enumeration or an interface that is made from one component schema.

## Main definitions

* `Model` — a model.
* `MappedModel`, `ModelDiscriminator` — which value of which property means which model.
* `Model.toJson` — a model as a free-form value.
-/

namespace ApiLowering

/-- A model that a discriminator selects. -/
structure MappedModel where
  /-- The value that selects it. -/
  mappingName : String
  modelName : String
deriving Repr, DecidableEq, Inhabited

/-- Which value of a property means which model. -/
structure ModelDiscriminator where
  /-- The name in the document. -/
  propertyBaseName : String
  propertyName : String
  propertyGetter : String
  propertyType : Option String
  mapping : Table String
  mappedModels : List MappedModel
  hasMappedModels : Bool
  hasMultipleMappedModels : Bool
deriving Repr, DecidableEq, Inhabited

/-- What the templates of a model want to know besides. -/
structure ModelFacets where
  hasOwnVars : Bool := false
  withMultipleVars : Bool := false
  withRequiredVars : Bool := false
  areRequiredVarsAndReadOnlyVars : Bool := false
  isServer : Bool := false
  generatedAnnotation : Bool := false
  visitable : Bool := false
  useEnumCaseInsensitive : Bool := false
  hasMappedModels : Bool := false
  hasMultipleMappedModels : Bool := false
  serialId : Int := 0
  implemented : List String := []
  additionalTypeAnnotations : List String := []
  annotations : ExtraAnnotations := {}
deriving Repr, DecidableEq, Inhabited

/-- A class, an enumeration or an interface. -/
structure Model where
  /-- The key of the component schema. -/
  name : String := ""
  classname : String := ""
  classVarName : String := ""
  dataType : String := ""
  description : Option String := none
  title : Option String := none
  flags : TypeFlags := {}
  isEnum : Bool := false
  isOneOfInterface : Bool := false
  isNullable : Bool := false
  deprecated : Bool := false
  /-- The class that is extended. -/
  parent : Option String := none
  /-- The key of the component schema of that class. -/
  parentSchema : Option String := none
  interfaces : List String := []
  oneOf : List String := []
  anyOf : List String := []
  /-- The properties that the class declares. -/
  vars : List Property := []
  /-- The properties of the class with those of its ancestors. -/
  allVars : List Property := []
  parentVars : List Property := []
  requiredVars : List Property := []
  optionalVars : List Property := []
  readOnlyVars : List Property := []
  readWriteVars : List Property := []
  requiredVarsWithoutDiscriminator : List Property := []
  requiredParentVarsWithoutDiscriminator : List Property := []
  /-- The arguments of the constructor. -/
  requiredArgs : List Property := []
  /-- The arguments that are handed to the constructor of the parent. -/
  parentRequiredArgs : List Property := []
  hasVars : Bool := false
  discriminator : Option ModelDiscriminator := none
  enumConstants : List EnumConstant := []
  enumDataType : Option String := none
  defaultValue : Option String := none
  imports : NameSet := {}
  facets : ModelFacets := {}
  vendorExtensions : Table Json := {}
deriving Inhabited

/-- A discriminator as a value. -/
def ModelDiscriminator.toJson (d : ModelDiscriminator) : Json :=
  .object ([("propertyBaseName", .string d.propertyBaseName),
    ("propertyName", .string d.propertyName), ("propertyGetter", .string d.propertyGetter),
    ("mapping", Json.ofTable d.mapping .string),
    ("mappedModels", .array (d.mappedModels.map fun m =>
      .object [("mappingName", .string m.mappingName), ("modelName", .string m.modelName)]))] ++
  flagMembers [("hasMappedModels", d.hasMappedModels),
    ("hasMultipleMappedModels", d.hasMultipleMappedModels)] ++
  Json.member? "propertyType" d.propertyType .string)

/-- The facets as a value. -/
def ModelFacets.toJson (f : ModelFacets) : Json :=
  .object (flagMembers [("hasOwnVars", f.hasOwnVars), ("withMultipleVars", f.withMultipleVars),
      ("withRequiredVars", f.withRequiredVars),
      ("areRequiredVarsAndReadOnlyVars", f.areRequiredVarsAndReadOnlyVars),
      ("isServer", f.isServer), ("generatedAnnotation", f.generatedAnnotation),
      ("visitable", f.visitable), ("useEnumCaseInsensitive", f.useEnumCaseInsensitive),
      ("hasMappedModels", f.hasMappedModels),
      ("hasMultipleMappedModels", f.hasMultipleMappedModels)] ++
    [("serialId", .ofInt f.serialId), ("annotations", f.annotations.toJson)] ++
    Json.listMember "xImplements" f.implemented .string ++
    Json.listMember "additionalTypeAnnotations" f.additionalTypeAnnotations .string)

namespace Model

/-- The declared property of a name. -/
def var? (m : Model) (name : String) : Option Property := m.vars.find? (·.name == name)

/-- The lists of properties, with their names. -/
def propertyLists (m : Model) : List (String × List Property) :=
  [("vars", m.vars), ("allVars", m.allVars), ("parentVars", m.parentVars),
    ("requiredVars", m.requiredVars), ("optionalVars", m.optionalVars),
    ("readOnlyVars", m.readOnlyVars), ("readWriteVars", m.readWriteVars),
    ("requiredVarsWithoutDiscriminator", m.requiredVarsWithoutDiscriminator),
    ("requiredParentVarsWithoutDiscriminator", m.requiredParentVarsWithoutDiscriminator),
    ("requiredArgs", m.requiredArgs), ("parentRequiredArgs", m.parentRequiredArgs)]

/-- A model as a value. -/
def toJson (m : Model) : Json :=
  .object ([("name", .string m.name), ("classname", .string m.classname),
    ("classVarName", .string m.classVarName), ("dataType", .string m.dataType)] ++
  flagMembers (m.flags.named ++
    [("isEnum", m.isEnum), ("isOneOfInterface", m.isOneOfInterface),
      ("isNullable", m.isNullable), ("deprecated", m.deprecated), ("hasVars", m.hasVars)]) ++
  Json.member? "description" m.description .string ++
  Json.member? "title" m.title .string ++
  Json.member? "parent" m.parent .string ++
  Json.member? "parentSchema" m.parentSchema .string ++
  Json.listMember "interfaces" m.interfaces .string ++
  Json.listMember "oneOf" m.oneOf .string ++
  Json.listMember "anyOf" m.anyOf .string ++
  m.propertyLists.map (fun (name, ps) => (name, .array (ps.map Property.toJson))) ++
  Json.member? "discriminator" m.discriminator ModelDiscriminator.toJson ++
  Json.listMember "enumVars" m.enumConstants EnumConstant.toJson ++
  Json.member? "enumDataType" m.enumDataType .string ++
  Json.member? "defaultValue" m.defaultValue .string ++
  [("imports", m.imports.toJson), ("facets", m.facets.toJson),
    ("vendorExtensions", Json.ofTable m.vendorExtensions id)])

end Model

end ApiLowering
