import ApiLowering.Calendar.Reader
import ApiLowering.Json.Writer
import ApiLowering.Types.Basic
import ApiLowering.Types.Models

/-!
# Default values

The default of a schema as an expression of the generated program.

## Main definitions

* `DefaultValue` — what initializes a field, and the value in plain form.
* `Setup.enumValueType` — the type that the constants of an enumeration are named by.
* `Setup.defaultValue` — the default of a schema whose type is known.
-/

namespace ApiLowering

/-- A default value. -/
structure DefaultValue where
  /-- What initializes the field. -/
  initializer : Option String := none
  /-- The value in plain form. -/
  plain : Option String := none
deriving Repr, DecidableEq, Inhabited

/-- Where a default stands. -/
inductive DefaultSite where
  | property
  | parameter
deriving Repr, DecidableEq, Inhabited

namespace Setup

variable (setup : Setup)

/-! ## Enumerations -/

/-- The word for the type of enumerated values. -/
def enumValueKey (s : Schema) : String :=
  let format := s.keywords.format.getD ""
  match s.primaryType with
  | some .integer => if format == "int64" then "long" else "integer"
  | some .number => if format == "float" || format == "double" then format else "number"
  | some .boolean => "boolean"
  | _ => "string"

/-- The type that the constants of an enumeration are named by. -/
def enumValueType (s : Schema) : String :=
  match setup.mappedType (enumValueKey s) with
  | .ok t => t
  | .error _ => "String"

/-- A value as a literal: a string in quotes, all else as it is. -/
def valueLiteral (v : Json) : String :=
  match v with
  | .string s => Dialect.stringLiteral s
  | v => v.plainText

/-- The default of an enumeration. A property names the constant of a value that is enumerated; any
other value is converted when the program runs, and so is the default of a parameter. -/
def enumDefault (s : Schema) (t : ResolvedType) (value : Json) (site : DefaultSite) :
    DefaultValue :=
  let raw := value.plainText
  let literal := valueLiteral value
  let converted (typeName : String) : String := typeName ++ ".fromValue(" ++ literal ++ ")"
  match site with
  | .parameter =>
    ⟨some (if t.facts.isEnumRef then converted t.facts.dataType else literal), some raw⟩
  | .property =>
    let constant := setup.names.constantName? (some raw) (setup.enumValueType s)
    match constant, s.keywords.enumValues.any (·.same value) with
    | some name, true => ⟨some (t.facts.datatypeWithEnum ++ "." ++ name), some raw⟩
    | _, _ => ⟨some (converted t.facts.datatypeWithEnum), some raw⟩

/-! ## Arrays -/

/-- The items of an array as expressions. -/
def itemExpressions (c : Components) (s : Schema) (items : ResolvedType) (values : List Json) :
    Except Fault (List String) := do
  if items.facts.isEnumRef || items.isInlineEnum then
    let valueType ← match s.items with
      | some r => do
        let (_, itemSchema) ← c.resolveSchema r
        pure (setup.enumValueType itemSchema)
      | none => pure items.facts.dataType
    return values.map fun v =>
      match setup.names.constantName? (some v.plainText) valueType with
      | some name => items.facts.datatypeWithEnum ++ "." ++ name
      | none => "null"
  else if items.facts.flags.isString || items.facts.dataType == "String" then
    return values.map fun v => Dialect.stringLiteral v.plainText
  else
    match NumberKind.ofType? items.facts.dataType with
    | some kind => return values.map fun v => setup.dialect.numberLiteral v.plainText kind
    | none => return values.map Json.plainText

/-- The default of an array. A default that is no array is an array with that item. -/
def arrayDefault (c : Components) (s : Schema) (t : ResolvedType) (nullable : Bool)
    (site : DefaultSite) : Except Fault DefaultValue := do
  let init := setup.dialect.collectionInit t.facts.uniqueItems
  let empty : DefaultValue := { initializer := some (init none) }
  match s.keywords.defaultValue with
  | none =>
    if nullable || setup.options.containerDefaultToNull then return {} else return empty
  | some value =>
    let values := match value with
      | .array vs => vs
      | v => [v]
    match t.items with
    | none => return empty
    | some items =>
      if values.isEmpty then return empty
      else
        let joined := Text.join ", " (← setup.itemExpressions c s items values)
        let plain := match site with
          | .property => joined
          | .parameter => (Json.array values).render
        return ⟨some (init (some joined)), some plain⟩

/-! ## Scalars -/

/-- The warning for a default that is no day or moment. -/
def unreadableDefault (raw kind : String) : Lowering DefaultValue := do
  Lowering.warnOnce ("default:" ++ kind ++ ":" ++ raw)
    s!"ignoring default '{raw}': not a valid {kind}"
  return {}

/-- The default of a scalar. Days and moments have one in Java only. -/
def scalarDefault (t : ResolvedType) (value : Json) : Lowering DefaultValue := do
  let d := setup.dialect
  let raw := value.plainText
  let flags := t.facts.flags
  if flags.isChar then
    let first := String.ofList (raw.toList.take 1)
    return ⟨some ("'" ++ Text.escape first ++ "'"), some first⟩
  else if flags.isBoolean then return ⟨some raw, some raw⟩
  else match NumberKind.ofType? t.facts.dataType with
  | some kind => return ⟨some (d.numberLiteral raw kind), some raw⟩
  | none =>
    if flags.isUri then return ⟨some (d.uriLiteral raw), some raw⟩
    else if flags.isUuid then return ⟨some (d.uuidLiteral raw), some raw⟩
    else if flags.isDate || flags.isDateTime then
      if d.language == .kotlin then return {}
      else if flags.isDate then
        match Day.readLoosely? raw with
        | some day => return ⟨some (d.localDateLiteral day.text), some day.text⟩
        | none => unreadableDefault raw "date"
      else
        match Moment.read? raw with
        | some moment => return ⟨some (d.dateTimeLiteral moment.text), some raw⟩
        | none => unreadableDefault raw "date-time"
    else if flags.isString || t.facts.dataType == "String" then
      return ⟨some (Dialect.stringLiteral raw), some (Text.escape raw)⟩
    else return {}

/-! ## Schemas -/

/-- The schema that enumerates the values: the first part that is a reference, unless the schema
does it itself. -/
def enumeratingSchema (c : Components) (s : Schema) : Except Fault Schema :=
  match s.allOf.findSome? Referable.path? with
  | some path => if s.isEnum then .ok s else (c.schema path).map (·.2)
  | none => .ok s

/-- The default of a schema whose type is known, names of enumerations included. -/
def defaultValue (c : Components) (r : SchemaRef) (t : ResolvedType) (nullable : Bool)
    (site : DefaultSite) : Lowering DefaultValue := do
  let (_, s) ← c.resolveSchema r
  if t.facts.isArray then setup.arrayDefault c s t nullable site
  else if t.facts.isMap then
    if nullable || setup.options.containerDefaultToNull then return {}
    else return { initializer := some setup.dialect.emptyMapInit }
  else
    match s.keywords.defaultValue with
    | none => return {}
    | some value =>
      if t.facts.isEnumRef || s.isEnum then
        let enumerating ← enumeratingSchema c s
        return setup.enumDefault enumerating t value site
      else setup.scalarDefault t value

end Setup

end ApiLowering
