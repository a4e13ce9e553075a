import ApiLowering.Models.Shape
import ApiLowering.Types.Resolution

/-!
# Discriminators

A discriminator tells the values of several models apart by one property. It maps values to models
by its own mapping first, then the alternatives and the descendants of its schema by their keys.

## Main definitions

* `Components.children`, `Components.descendants` — the schemas that have another one as a part.
* `Resolver.discriminator` — the discriminator of a model.
-/

namespace ApiLowering

namespace Components

variable (c : Components)

/-! ## Descendants -/

/-- The keys of the schemas that a schema refers to as its parts. -/
def partKeys : SchemaRef → List String
  | .ref _ => []
  | .inline s => s.allOf.filterMap fun r =>
    r.path?.bind fun path => (Reference.keyIn "schemas" path).toOption

/-- The keys of the schemas that refer to a schema as one of their parts. -/
def children (key : String) : List String :=
  c.schemas.entries.flatMap fun (child, r) =>
    (partKeys r).filterMap fun parent => if parent = key then some child else none

/-- Visits the keys of a stack, the top first, and puts those of their children on top that have not
been found. The number bounds the visits. -/
def descend (root : String) : Nat → List String → List String → List String
  | 0, found, _ => found
  | _ + 1, found, [] => found
  | n + 1, found, current :: stack =>
    let fresh := (distinctBy id (c.children current)).filter fun child =>
      child != root && !found.contains child
    descend root n (found ++ fresh) (fresh.reverse ++ stack)

/-- The keys of the schemas that have a schema as a part, directly or not. A key goes on the stack
once at most, so there are no more visits than keys. -/
def descendants (key : String) : List String := c.descend key (c.schemas.size + 1) [] [key]

end Components

/-! ## Discriminators -/

/-- The models that a discriminator maps to so far. -/
structure MappedTargets where
  mapping : Table String := {}
  models : List MappedModel := []
  /-- The keys of the models. -/
  keys : List String := []

/-- One more model. -/
def MappedTargets.push (m : MappedTargets) (value key classname : String) : MappedTargets :=
  { m with models := m.models ++ [⟨value, classname⟩], keys := m.keys ++ [key] }

namespace Resolver

variable (r : Resolver)

/-- The class name of the model of a component. -/
def classname? (key : String) : Option String := (r.models.find? key).map (·.classname)

/-- The key that a mapping names: a reference or the key itself. -/
def targetKey? (target : String) : Option String :=
  if Text.startsWith target "#" then (Reference.keyIn "schemas" target).toOption else some target

/-- Maps a value to the model that the discriminator names for it. -/
def mapExplicit (key : String) (m : MappedTargets) (value target : String) :
    Lowering MappedTargets := do
  match (targetKey? target).bind fun k => (r.classname? k).map fun name => (k, name) with
  | some (targetKey, classname) =>
    return { m.push value targetKey classname with mapping := m.mapping.insert value classname }
  | none =>
    Lowering.warnOnce ("discriminator:" ++ key ++ ":" ++ target)
      s!"discriminator of '{key}' maps '{value}' to missing schema '{target}'"
    return m

/-- Maps the key of a model to that model, unless a value is mapped to it already. -/
def mapImplicit (key : String) (m : MappedTargets) (target : String) :
    Lowering MappedTargets := do
  match r.classname? target with
  | none =>
    Lowering.warnOnce ("discriminator:" ++ key ++ ":" ++ target)
      s!"discriminator of '{key}' refers to '{target}', which has no model"
    return m
  | some classname =>
    if m.models.any (·.modelName == classname) then return m
    else return m.push target target classname

/-- The keys that a discriminator maps without naming them: alternatives, then descendants. -/
def implicitTargets (key : String) (s : Schema) : List String :=
  (s.oneOf.filterMap fun a =>
    a.path?.bind fun path => (Reference.keyIn "schemas" path).toOption) ++
    r.components.descendants key

/-- The type of a property in the first schema that has it. -/
def firstPropertyType? (property : String) : List String → Lowering (Option String)
  | [] => return none
  | key :: rest => do
    let (_, target) ← r.components.schema (Reference.toSchema key)
    match (Shape.ofSchema target).properties.find? property with
    | some ref => return some (← r.resolve ref).facts.dataType
    | none => firstPropertyType? property rest

/-- The type of the property of a discriminator: that of the first model that has it, or of the
schema itself, or a text. -/
def discriminatorType (s : Schema) (property : String) (keys : List String) :
    Lowering String := do
  match ← r.firstPropertyType? property keys with
  | some t => return t
  | none =>
    match (Shape.ofSchema s).properties.find? property with
    | some ref => return (← r.resolve ref).facts.dataType
    | none => r.setup.mappedType "string"

/-- The discriminator of a model. -/
def discriminator (key : String) (s : Schema) (d : Discriminator) :
    Lowering ModelDiscriminator := do
  let propertyName ← r.setup.names.propertyName d.propertyName
  let explicit ← d.mapping.entries.foldlM
    (fun m (value, target) => r.mapExplicit key m value target) {}
  let m ← (r.implicitTargets key s).foldlM (fun m target => r.mapImplicit key m target) explicit
  let propertyType ← r.discriminatorType s d.propertyName m.keys
  return {
    propertyBaseName := d.propertyName
    propertyName
    propertyGetter := Names.getter propertyName
    propertyType := some propertyType
    mapping := m.mapping
    mappedModels := m.models
    hasMappedModels := !m.models.isEmpty
    hasMultipleMappedModels := m.models.length > 1 }

end Resolver

end ApiLowering
