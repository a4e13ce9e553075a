import ApiLowering.Models.Discriminator
import ApiLowering.Models.Property

/-!
# Drafts of models

A component schema becomes the draft of a model: all that can be said of it alone. Its interfaces
and what it inherits depend on the other drafts.

## Main definitions

* `Draft` — a model before it is linked to others.
* `Resolver.parentKey?` — the component that a model extends.
* `Resolver.shapeBeside` — the properties that a model declares itself.
* `Resolver.draft` — the draft of a component schema.
-/

namespace ApiLowering

/-- A model before it is linked to others. -/
structure Draft where
  model : Model
  /-- The key of the component that the model extends. -/
  parentKey : Option String := none
  /-- Whether properties came from an interface in the place of a parent. -/
  fromInterface : Bool := false
  /-- The arguments that the constructors of the model and of its ancestors take. -/
  inheritedArgs : List Property := []
deriving Inhabited

/-- The drafts, by the keys of their components. -/
abbrev Drafts := Table Draft

namespace Resolver

variable (r : Resolver)

/-! ## Parts -/

/-- The references among the parts of a schema. -/
def partPaths (s : Schema) : List String := s.allOf.filterMap Referable.path?

/-- The schemas that the parts of a schema refer to, with their keys. -/
def partTargets (s : Schema) : Except Fault (List (String × Schema)) :=
  (partPaths s).mapM r.components.schema

/-- Whether a component becomes a class that can be extended. -/
def isExtensible (key : String) : Bool := (r.models.find? key).any (!·.isEnum)

/-- The component that a model extends: the only part that can be extended, or the first of them
with a discriminator. -/
def parentKey? (targets : List (String × Schema)) : Option String :=
  match targets.filter fun t => r.isExtensible t.1 with
  | [(key, _)] => some key
  | several => (several.find? (·.2.keywords.discriminator.isSome)).map Prod.fst

/-- The properties that a model declares itself: its own, those of its inline parts, and those of
the parts that it refers to and does not extend. -/
def shapeBeside (s : Schema) (targets : List (String × Schema)) (parent : Option String) : Shape :=
  (targets.filter fun t => parent != some t.1).foldl (fun shape t => shape.add t.2)
    (Shape.ofSchema s)

/-! ## Models -/

/-- What a schema says of its model, whatever it is. -/
def bareModel (key classname : String) (s : Schema) : Model :=
  let o := r.setup.options
  { name := key
    classname
    classVarName := Text.lowerFirst classname
    dataType := classname
    description := s.keywords.description
    title := s.keywords.title
    isNullable := s.isNullable
    deprecated := s.isDeprecated
    vendorExtensions := s.vendorExtensions
    facets := {
      isServer := r.setup.isServer
      generatedAnnotation := o.generatedAnnotation
      visitable := o.visitable
      useEnumCaseInsensitive := o.useEnumCaseInsensitive } }

/-- The model of an enumeration. -/
def enumModel (bare : Model) (s : Schema) : Lowering Model := do
  let t ← r.resolveSchema s
  let valueType := match s.scalarOverride? r.setup.dialect with
    | some o => o.dataType
    | none => r.setup.enumValueType s
  let enumConstants ← r.setup.enumConstants s valueType
  let m := bare.withType t
  return { m with
    isEnum := true
    enumConstants
    defaultValue := s.keywords.defaultValue.bind fun v =>
      r.setup.names.constantName? (some v.plainText) valueType
    enumDataType := some valueType
    imports := m.imports.insert "Function"
    facets.additionalTypeAnnotations := r.setup.options.additionalEnumTypeAnnotations }

/-- The types of some alternatives. -/
def memberTypes (rs : List SchemaRef) : Lowering (List String) :=
  rs.mapM fun a => return (← r.resolve a).facts.dataType

/-- The properties of a shape, and what they import. -/
def properties (shape : Shape) : Lowering (List Property × NameSet) :=
  shape.properties.entries.foldlM (fun (ps, imports) (name, ref) => do
    let (p, more) ← r.property name ref (shape.requires name) .property
    return (ps ++ [p], imports.union more)) ([], {})

/-- The model with its discriminator. -/
def withDiscriminator (m : Model) (d : ModelDiscriminator) : Model :=
  { m with
    discriminator := some d
    vars := m.vars.map fun p =>
      if p.baseName == d.propertyBaseName then { p with isDiscriminator := true } else p
    facets.hasMappedModels := d.hasMappedModels
    facets.hasMultipleMappedModels := d.hasMultipleMappedModels }

/-- Names of annotations that are never imported. -/
def neverImported : List String := ["ApiModel", "ApiModelProperty"]

/-- Whether a schema becomes an interface: it says so, or it has alternatives. -/
def isInterface (s : Schema) : Bool :=
  s.extensionSet "x-is-one-of-interface" ||
    (r.setup.options.useOneOfInterfaces && !s.oneOf.isEmpty)

/-- The model of a class or an interface. -/
def classModel (key : String) (bare : Model) (s : Schema) (shape : Shape) : Lowering Model := do
  let isOneOfInterface := r.isInterface s
  let oneOf ← r.memberTypes s.oneOf
  let anyOf ← r.memberTypes s.anyOf
  let (vars, imports) ← r.properties shape
  let m := { bare with
    isOneOfInterface
    oneOf
    anyOf
    vars
    vendorExtensions :=
      if isOneOfInterface then bare.vendorExtensions.insert "x-is-one-of-interface" (.bool true)
      else bare.vendorExtensions }
  let m ← match s.keywords.discriminator with
    | some d => do pure (withDiscriminator m (← r.discriminator key s d))
    | none => pure m
  let o := r.setup.options
  return { m with
    facets.additionalTypeAnnotations :=
      if isOneOfInterface then o.additionalOneOfTypeAnnotations
      else o.additionalModelTypeAnnotations
    imports := (neverImported.foldl NameSet.erase imports).erase m.classname }

/-- The draft of a component schema. -/
def draft (key classname : String) (s : Schema) : Lowering Draft := do
  let bare := r.bareModel key classname s
  if s.isEnum then return { model := ← r.enumModel bare s }
  else
    let targets ← r.partTargets s
    let parentKey := r.parentKey? targets
    let model ← r.classModel key bare s (shapeBeside s targets parentKey)
    return { model, parentKey }

/-- The drafts of all models. -/
def drafts : Lowering Drafts :=
  r.models.entries.foldlM (fun ds (key, entry) => do
    let (_, s) ← r.components.schema (Reference.toSchema key)
    return ds.insert key (← r.draft key entry.classname s)) {}

end Resolver

end ApiLowering
