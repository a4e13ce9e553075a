import ApiLowering.Endpoints.Body
import ApiLowering.Endpoints.Unique
import ApiLowering.Models.Discriminator
import ApiLowering.Models.Property

/-!
# Arguments of endpoints

Parameters, bodies and the fields of forms are properties that travel somewhere.

## Main definitions

* `Argument.ofProperty` — a property as an argument.
* `Components.declaredParameters` — the parameters of an operation with those of its path.
* `Resolver.declaredArgument`, `Resolver.bodyArgument`, `Resolver.formArguments` — the arguments of
  a parameter, of a body and of a form.
* `Options.arrange` — the order of the arguments.
-/

namespace ApiLowering

/-- A property as an argument. -/
def Argument.ofProperty (p : Property) (paramName : String) : Argument where
  paramName
  realName := p.baseName
  baseName := p.baseName
  description := p.description
  required := p.required
  type := p.type
  isEnum := p.isEnum
  isNullable := p.isNullable
  isDeprecated := p.deprecated
  items := p.items
  defaultValue := p.defaultValue
  sample := p.sample
  constraints := p.constraints
  formatPattern := p.formatPattern
  allowableValues := p.enumConstants.map (·.rawValue)
  enumConstants := p.enumConstants
  facets := { initializer := p.initializer }
  vendorExtensions := p.vendorExtensions

/-- The key of the component schema that is referred to. -/
def Referable.schemaKey? (r : SchemaRef) : Option String :=
  r.path?.bind fun path => (Reference.keyIn "schemas" path).toOption

/-- The schema of texts. -/
def Schema.plainText : SchemaRef := .inline (.ofType .string)

/-! ## Declared parameters -/

namespace Parameter

/-- Whether two parameters have one name and one location. -/
def isNamesake (p q : Parameter) : Bool := p.name == q.name && p.location == q.location

/-- The schema of a parameter: its own, or that of its first content. A parameter without either is
a text. -/
def schemaRef (p : Parameter) : SchemaRef :=
  (p.schema <|> p.content.values.head?.bind (·.schema)).getD Schema.plainText

/-- Whether each item of a list travels under a name of its own. -/
def explodes (p : Parameter) : Bool :=
  match p.explode, p.style with
  | some b, _ => b
  | none, some style => style == "form"
  | none, none => p.location == .query || p.location == .cookie

/-- Whether a value has to be given. Those of a path always have to. -/
def isRequired (p : Parameter) : Bool := p.required || p.location == .path

end Parameter

/-- The parameters of an operation with those of its path. A later parameter replaces an earlier one
of the same name and location. -/
def Components.declaredParameters (c : Components) (item : PathItem) (op : Operation) :
    Except Fault (List Parameter) :=
  (item.parameters ++ op.parameters).foldlM
    (fun ps r => return putBy Parameter.isNamesake (← c.parameter r) ps) []

/-- An argument with what the declaration of a parameter says beside its schema. -/
def Argument.declared (a : Argument) (p : Parameter) : Argument :=
  { a with
    location := some p.location.text
    isQuery := p.location == .query
    isHeader := p.location == .header
    isPath := p.location == .path
    isCookie := p.location == .cookie
    description := p.description <|> a.description
    isDeprecated := a.isDeprecated || p.deprecated == some true
    isExplode := p.explodes
    sample := p.sample.map Json.plainText <|> a.sample
    refName := Referable.schemaKey? p.schemaRef
    vendorExtensions := a.vendorExtensions.insertAll (Extensions.vendor p.extensions).entries }

namespace Resolver

variable (r : Resolver)

/-- The argument of a schema under a name, and what it imports. -/
def argument (name : String) (ref : SchemaRef) (required : Bool) :
    Lowering (Argument × NameSet) := do
  let (p, imports) ← r.property name ref required .parameter
  return (.ofProperty p (← r.setup.names.parameterName name), imports)

/-- The argument of a parameter. -/
def declaredArgument (nickname : String) (p : Parameter) : Lowering (Argument × NameSet) := do
  if p.schema.isNone && p.content.size > 1 then
    let count := p.content.size
    Lowering.warnOnce ("parameter-content:" ++ nickname ++ ":" ++ p.name)
      s!"parameter '{p.name}' of '{nickname}' declares {count} media types, using the first"
  let (a, imports) ← r.argument p.name p.schemaRef p.isRequired
  return (a.declared p, imports)

/-! ## Bodies -/

/-- The extension that names the argument of a body. -/
def bodyNameKey : String := "x-codegen-request-body-name"

/-- The name of a body that neither has one nor refers to a model. -/
def defaultBodyName : String := "body"

/-- The model that a body refers to, itself or as the items of an array. -/
def bodyModelPath? : SchemaRef → Option String
  | .ref path => some path
  | .inline s => if s.isArray then s.items.bind Referable.path? else none

/-- The name of a body after the model that it refers to. -/
def modelBodyName (ref : SchemaRef) : String :=
  let key? := (bodyModelPath? ref).bind fun path => (Reference.keyIn "schemas" path).toOption
  match key?.bind r.classname? with
  | some classname => Text.lowerFirst classname
  | none => defaultBodyName

/-- The name of a body: the one that the operation gives it, or that it has itself, or that of its
model. -/
def bodyName (op : Operation) (body : RequestBody) (ref : SchemaRef) : String :=
  match op.extensions.find? bodyNameKey <|> body.extensions.find? bodyNameKey with
  | some (.string name) => name
  | _ => r.modelBodyName ref

/-- The argument of a body. -/
def bodyArgument (op : Operation) (body : RequestBody) (v : BodyVariant) :
    Lowering (Argument × NameSet) := do
  let ref := v.content.schema.getD (.inline {})
  let (a, imports) ← r.argument (r.bodyName op body ref) ref body.required
  let vendor := Extensions.vendor body.extensions
  return ({ a with
    isBody := true
    description := body.description <|> a.description
    contentType := some v.mediaType
    refName := Referable.schemaKey? ref
    vendorExtensions := a.vendorExtensions.insertAll vendor.entries }, imports)

/-- The arguments of a form: one for each property of its schema. -/
def formArguments (v : BodyVariant) : Lowering (List (Argument × NameSet)) := do
  match v.content.schema with
  | none => return []
  | some ref => do
    let (_, s) ← r.components.resolveSchema ref
    s.properties.entries.mapM fun (name, property) => do
      let (a, imports) ← r.argument name property (s.keywords.required.contains name)
      let contentType := (v.content.encoding.find? name).bind (·.contentType)
      return ({ a with isForm := true, contentType }, imports)

/-- The arguments of a body: the body itself, or the fields of its form. -/
def contentArguments (op : Operation) (body : RequestBody) (v : BodyVariant) :
    Lowering (List (Argument × NameSet)) := do
  if Content.isForm v.mediaType then r.formArguments v
  else return [← r.bodyArgument op body v]

end Resolver

/-! ## Order -/

/-- The arguments in their order, each with a name of its own. Required ones go first if the options
say so, and otherwise the order stays. -/
def Options.arrange (o : Options) (declared contents : List Argument) : List Argument :=
  let args := if o.prependFormOrBodyParameters then contents ++ declared else declared ++ contents
  let args := if o.ensureUniqueParams then Argument.unique args else args
  if o.sortParamsByRequiredFlag then
    args.filter (·.required) ++ args.filter (!·.required)
  else args

end ApiLowering
