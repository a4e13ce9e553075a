import ApiLowering.Document.Schema.Basic
import ApiLowering.Program.Annotations
import ApiLowering.Types.Defaults
import ApiLowering.Types.Resolution

/-!
# Properties of schemas

A schema under a name becomes a property: its type, its default, its limits, and the constants of
the values that it enumerates.

## Main definitions

* `Schema.constraints` — the limits that a schema sets.
* `Schema.vendorExtensions` — the extensions that are meant for programs.
* `Resolver.enumConstants` — the constants of an enumeration.
* `Property.described` — a property with what a schema says of its values.
* `Resolver.itemsProperty` — the property of the items of a container.
* `Resolver.property` — the property of a schema.
-/

namespace ApiLowering

/-! ## Limits -/

namespace Schema

/-- The text of a bound: the inclusive one, or else the exclusive one if it is a number of its own.
-/
def boundText? (s : Schema) (inclusive : Option Number) (exclusive : Option Json) :
    Option String :=
  let integral := s.isType .integer
  match inclusive, exclusive with
  | some n, _ => some (n.boundText integral)
  | none, some (.number n) => some (n.boundText integral)
  | none, _ => none

/-- The limits that a schema sets. -/
def constraints (s : Schema) : Constraints :=
  let k := s.keywords
  { pattern := k.pattern
    minLength := k.minLength
    maxLength := k.maxLength
    minimum := s.boundText? k.minimum k.exclusiveMinimum
    maximum := s.boundText? k.maximum k.exclusiveMaximum
    exclusiveMinimum := s.excludesMinimum
    exclusiveMaximum := s.excludesMaximum
    minItems := k.minItems
    maxItems := k.maxItems }

/-- The extensions of a schema that are meant for programs. -/
def vendorExtensions (s : Schema) : Table Json := Extensions.vendor s.keywords.extensions

end Schema

/-! ## Enumerations -/

namespace Setup

variable (setup : Setup)

/-- The texts of the values that an enumeration deprecates. -/
def deprecatedValues (s : Schema) : List String :=
  match s.extension? "x-deprecated" with
  | some (.array vs) => vs.map Json.plainText
  | some v => [v.plainText]
  | none => []

/-- What initializes the constant of a value. -/
def constantLiteral (scalar : Option Primitive) (valueType raw : String) : String :=
  let java := setup.dialect.language == .java
  match scalar, NumberKind.ofType? valueType with
  | some .char, _ => "'" ++ Text.escape raw ++ "'"
  | scalar, kind =>
    if scalar == some .short && java then "(short) " ++ raw
    else if scalar == some .byte && java then "(byte) " ++ raw
    else if valueType == "String" then Dialect.stringLiteral raw
    else match kind with
      | some kind => setup.dialect.numberLiteral raw kind
      | none => raw

/-- The constants of an enumeration. Values without a name are left out with a warning, and of
several values with one name the first one stays. -/
def enumConstants (s : Schema) (valueType : String) : Lowering (List EnumConstant) := do
  let scalar := (s.scalarOverride? setup.dialect).map (·.scalar)
  let deprecated := deprecatedValues s
  let named ← (s.keywords.enumValues.filter (!·.isNull)).filterMapM fun v => do
    let raw := v.plainText
    match setup.names.constantName? (some raw) valueType with
    | some name => return some (name, raw)
    | none =>
      Lowering.warnOnce ("enum-var:" ++ raw)
        s!"enum value '{raw}' has no constant name, skipping it"
      return none
  return (distinctBy Prod.fst named).map fun (name, raw) => {
    name
    value := setup.constantLiteral scalar valueType raw
    rawValue := raw
    isString := valueType == "String"
    deprecated := deprecated.contains raw }

/-- The name of the enumeration of a property. -/
def enumName (propertyName : String) : String :=
  Text.camelCase (Text.replaceChar propertyName Dialect.Kotlin.wordMark "") ++ "Enum"

/-- The annotations of a run. -/
def annotator : Annotator := ⟨setup.dialect, setup.options.beanValidation⟩

end Setup

/-! ## Properties -/

/-- The property with what a schema says of its values. The pattern of days and moments is a format.
-/
def Property.described (p : Property) (s : Schema) : Property :=
  let k := s.keywords
  let limits := s.constraints
  let isTime := p.type.flags.isDate || p.type.flags.isDateTime
  { p with
    description := k.description
    title := k.title
    isNullable := s.isNullable
    isReadOnly := s.isReadOnly
    isWriteOnly := k.writeOnly == some true
    deprecated := s.isDeprecated
    sample := k.sample.map Json.plainText
    constraints := if isTime then { limits with pattern := none } else limits
    formatPattern := if isTime then limits.pattern else none
    vendorExtensions := s.vendorExtensions }

namespace Resolver

variable (r : Resolver)

/-- The schema of the items of a container. -/
def itemsSchema? (s : Schema) : Option SchemaRef :=
  if s.isArray then s.items
  else match s.additional with
    | some (.values values) => some values
    | _ => none

/-- What the items of a container are if their schema is not known. -/
def bareItems (name baseName : String) (t : ResolvedType) : Property :=
  ({ name, baseName, realName := baseName, isEnum := t.isInlineEnum } : Property).withType t

/-- The items with what their schema says, unless they are of a type with a name. -/
def describedItems (p : Property) (s : Schema) (t : ResolvedType) : Lowering Property := do
  if t.facts.isModel || t.facts.isEnumRef then return p
  else
    let p := p.described s
    if t.isInlineEnum then
      return { p with enumConstants := ← r.setup.enumConstants s (r.setup.enumValueType s) }
    else return p

mutual

/-- The property of the items of a container whose type is known. -/
def itemsProperty (name baseName : String) (container : Schema) :
    ResolvedType → Lowering Property
  | t@{ items, .. } => do
    let bare := bareItems name baseName t
    match itemsSchema? container with
    | none => return bare
    | some ref => do
      let (_, s) ← r.components.resolveSchema ref
      let p ← r.describedItems bare s t
      return { p with items := ← itemsOf name baseName s items }

/-- The property of the items, if there are any. -/
def itemsOf (name baseName : String) (container : Schema) :
    Option ResolvedType → Lowering (Option Property)
  | none => return none
  | some t => return some (← itemsProperty name baseName container t)

end

/-- Names a property and its accessors. -/
def namedProperty (name baseName : String) : Property :=
  let plain := r.setup.names.unescape name
  { name, baseName, realName := baseName
    nameInCamelCase := Text.camelCase plain
    nameInSnakeCase := Text.snakeCase plain
    getter := Names.getter name
    setter := Names.setter name }

/-- The type of a property, with the name of its enumeration if it has one. -/
def propertyType (name : String) (ref : SchemaRef) : Lowering ResolvedType := do
  let t ← r.resolve ref
  return if t.innermost.isInlineEnum then t.setEnumName (Setup.enumName name) else t

/-- The schema that describes a property: a type with a name is described where it is used, all else
by its own schema. -/
def describing (ref : SchemaRef) (target : Schema) (t : ResolvedType) : Option Schema :=
  if t.facts.isModel || t.facts.isEnumRef then ref.inline? else some target

/-- The constants of the values that a property enumerates. -/
def propertyConstants (p : Property) (target : Schema) (t : ResolvedType) :
    Lowering (List EnumConstant) :=
  if t.innermost.isInlineEnum then
    match p.items with
    | some items => return items.innermost.enumConstants
    | none => r.setup.enumConstants target (r.setup.enumValueType target)
  else return []

/-- The facets of a property. -/
def propertyFacets (p : Property) : PropertyFacets :=
  let isServer := r.setup.isServer
  { p.facets with
    inRequiredArgsConstructor := !p.isReadOnly || isServer
    isServer
    lombok := r.setup.options.lombok
    defaultValueIsNotNull := p.defaultValue.any (· != "null")
    withValid := r.setup.options.beanValidation &&
      ((!p.type.isContainer && p.type.isModel) || (p.type.isArray && p.refersToModel)) }

/-- The property of a schema under a name, and what it imports. -/
def property (baseName : String) (ref : SchemaRef) (required : Bool) (site : DefaultSite) :
    Lowering (Property × NameSet) := do
  let name ← r.setup.names.propertyName baseName
  let t ← r.propertyType name ref
  let (_, target) ← r.components.resolveSchema ref
  let p := ({ r.namedProperty name baseName with required } : Property).withType t
  let p := { p with isEnum := t.innermost.isInlineEnum && t.items.isNone }
  let p := match describing ref target t with
    | some s => p.described s
    | none => p
  let p := { p with items := ← r.itemsOf name baseName target t.items }
  let p := { p with enumConstants := ← r.propertyConstants p target t }
  let value ← r.setup.defaultValue r.components ref t p.isNullable site
  let p := { p with defaultValue := value.plain, initializer := value.initializer }
  return ({ p with facets := r.propertyFacets p : Property }.annotated r.setup.annotator, t.imports)

end Resolver

end ApiLowering
