import ApiLowering.Document.Lookup
import ApiLowering.Document.Schema.Writer
import ApiLowering.Names

/-!
# Hoisting

Every schema that becomes a class has to be a component. Hoisting turns the anonymous ones into
components with names of their own, and puts references in their places. Equal schemas share one
component unless that is switched off.

Names are chosen from the root of a schema to its leaves, and components are added from the leaves
to the root.

## Main definitions

* `Hoisting.Rules` — what is hoisted, and how names are chosen.
* `Hoisting.Pool` — the components that were added, and the names in use.
* `Hoisting.visit`, `Hoisting.walkModel` — hoisting at one place and below a named schema.
* `Document.hoisted` — a document with its anonymous schemas hoisted.
-/

namespace ApiLowering

namespace Hoisting

/-- What is hoisted, and how names are chosen. -/
structure Rules where
  /-- The caller's names in the place of derived ones. -/
  nameMapping : Table String := {}
  /-- Whether enumerations in properties are hoisted. -/
  hoistEnums : Bool := true
  /-- Whether equal schemas share a component. -/
  reuse : Bool := true
deriving Repr, DecidableEq, Inhabited

/-- The rules of a set of options. -/
def Rules.ofOptions (o : Options) : Rules where
  nameMapping := o.inlineSchemaNameMapping
  hoistEnums := o.inlineOption "RESOLVE_INLINE_ENUMS"
  reuse := !o.inlineOption "SKIP_SCHEMA_REUSE"

/-- The components that were added, and the names in use. -/
structure Pool where
  used : List String
  added : Table Schema := {}

/-- Where a schema stands. -/
inductive Site where
  /-- A property of a model. -/
  | property
  /-- Items, values, bodies, responses and parameters. -/
  | nested
deriving Repr, DecidableEq

/-- A step of hoisting. -/
abbrev Step := StateM Pool

/-! ## Names -/

/-- A name with a number, counted from one. -/
def numbered (name : String) (i : Nat) : String := name ++ toString (i + 1)

/-- A name that is not in use: the wanted one, or the one with the first number that makes it so. -/
def freshName (used : List String) (wanted : String) : String :=
  if used.contains wanted then
    (((List.range (used.length + 1)).map (numbered wanted)).find? (!used.contains ·)).getD wanted
  else wanted

/-- The name for a schema at a place: derived from the place, or the caller's name for it. -/
def candidate (rules : Rules) (used : List String) (place : String) : String :=
  let derived := Text.camelCase place
  freshName used ((rules.nameMapping.find? derived).getD derived)

/-! ## The pool -/

/-- Adds a schema under a name, and answers the name of the component that holds it: an equal one
that was added before, or the new one. -/
def register (rules : Rules) (name : String) (s : Schema) : Step String := fun pool =>
  let equal := if rules.reuse then pool.added.entries.find? fun e => e.2.same s else none
  match equal with
  | some (existing, _) => (existing, pool)
  | none => (name, { used := name :: pool.used, added := pool.added.insert name s })

/-- Whether a schema is only another name for a component. -/
def isAlias (s : Schema) : Bool :=
  (match s.allOf with
    | [r] => r.isRef
    | _ => false) && s.properties.isEmpty && s.oneOf.isEmpty && s.anyOf.isEmpty

/-- Whether a schema is hoisted: it lowers to a class, or it enumerates the values of a property. -/
def isHoisted (rules : Rules) (site : Site) (s : Schema) : Bool :=
  !s.isMap &&
    ((s.isObjectLike && !isAlias s) ||
      (site == .property && rules.hoistEnums && s.isEnum && !s.isArray))

/-! ## Walks -/

mutual

/-- Hoists a schema at a place, or what is below it. -/
def visit (rules : Rules) (place : String) (site : Site) : SchemaRef → Step SchemaRef
  | .ref path => return .ref path
  | .inline s => do
    if isHoisted rules site s then
      let name := candidate rules (← get).used place
      let s ← walkModel rules name s
      return .ref (Reference.toSchema (← register rules name s))
    else return .inline (← walkContainer rules place s)

/-- Hoists what is below a schema with a name. -/
def walkModel (rules : Rules) (name : String) : Schema → Step Schema
  | s@{ properties, items, additional, allOf, oneOf, anyOf, .. } => do
    let properties ← walkProperties rules name properties
    let allOf ← walkParts rules name allOf
    let oneOf ← visitAll rules (name ++ "_OneOf") oneOf
    let anyOf ← visitAll rules (name ++ "_AnyOf") anyOf
    let items ← visitItems rules (name ++ "_Inner") s.isArray items
    let additional ← visitAdditional rules (name ++ "_Value") (!s.isArray) additional
    return { s with properties, items, additional, allOf, oneOf, anyOf }

/-- Hoists the items of an array or the values of a map. -/
def walkContainer (rules : Rules) (place : String) : Schema → Step Schema
  | s@{ items, additional, .. } => do
    let items ← visitItems rules (place ++ "_Inner") s.isArray items
    let additional ← visitAdditional rules (place ++ "_Value") (!s.isArray) additional
    return { s with items, additional }

/-- Hoists the properties of a model. -/
def walkProperties (rules : Rules) (name : String) : Table SchemaRef → Step (Table SchemaRef)
  | ⟨es⟩ => return ⟨← walkEntries rules name es⟩

/-- Hoists the entries of a table of properties. -/
def walkEntries (rules : Rules) (name : String) :
    List (String × SchemaRef) → Step (List (String × SchemaRef))
  | [] => return []
  | e :: es => do
    let e ← walkEntry rules name e
    return e :: (← walkEntries rules name es)

/-- Hoists one property. -/
def walkEntry (rules : Rules) (name : String) : String × SchemaRef → Step (String × SchemaRef)
  | (k, r) => return (k, ← visit rules (name ++ "_" ++ k) .property r)

/-- Hoists what is below the inline parts of a model; the parts themselves stay. -/
def walkParts (rules : Rules) (name : String) : List SchemaRef → Step (List SchemaRef)
  | [] => return []
  | r :: rs => do
    let r ← walkPart rules name r
    return r :: (← walkParts rules name rs)

/-- Hoists what is below a part of a model. -/
def walkPart (rules : Rules) (name : String) : SchemaRef → Step SchemaRef
  | .ref path => return .ref path
  | .inline s => return .inline (← walkModel rules name s)

/-- Hoists a list of alternatives. -/
def visitAll (rules : Rules) (place : String) : List SchemaRef → Step (List SchemaRef)
  | [] => return []
  | r :: rs => do
    let r ← visit rules place .nested r
    return r :: (← visitAll rules place rs)

/-- Hoists the items of an array. -/
def visitItems (rules : Rules) (place : String) (isArray : Bool) :
    Option SchemaRef → Step (Option SchemaRef)
  | none => return none
  | some r => do
    if isArray then return some (← visit rules place .nested r) else return some r

/-- Hoists the values of a map. -/
def visitAdditional (rules : Rules) (place : String) (isMap : Bool) :
    Option (Additional SchemaRef) → Step (Option (Additional SchemaRef))
  | none => return none
  | some a => do
    if isMap then return some (← visitValues rules place a) else return some a

/-- Hoists the schema of further properties. -/
def visitValues (rules : Rules) (place : String) :
    Additional SchemaRef → Step (Additional SchemaRef)
  | .allowed b => return .allowed b
  | .values r => return .values (← visit rules place .nested r)

end

/-! ## Contents and operations -/

/-- Applies a step to every value of a table, in order. -/
def forValues {α : Type} (step : String → α → Step α) (t : Table α) : Step (Table α) :=
  return ⟨← t.entries.mapM fun (k, v) => return (k, ← step k v)⟩

/-- Applies a step to the schema of a media type. -/
def forSchema (step : SchemaRef → Step SchemaRef) (m : MediaType) : Step MediaType :=
  match m.schema with
  | some r => return { m with schema := some (← step r) }
  | none => return m

/-- Hoists the schemas of a body. The schema of a form stays where it is, since its properties
become arguments. -/
def walkContent (rules : Rules) (place : String) (content : Table MediaType) :
    Step (Table MediaType) :=
  forValues (fun mediaType m =>
    forSchema (fun r =>
      if Content.isForm mediaType then walkPart rules place r else visit rules place .nested r) m)
    content

/-- Hoists the schemas of a parameter. -/
def walkParameter (rules : Rules) (operation : String) (p : Parameter) : Step Parameter := do
  let place := operation ++ "_" ++ p.name ++ "_Parameter"
  let schema ← match p.schema with
    | some r => some <$> visit rules place .nested r
    | none => pure none
  let content ← forValues (fun _ m => forSchema (visit rules place .nested) m) p.content
  return { p with schema, content }

/-- Hoists the schemas of a response. -/
def walkResponse (rules : Rules) (place : String) : ResponseRef → Step ResponseRef
  | .ref path description => return .ref path description
  | .inline r => do
    let content ← forValues (fun _ m => forSchema (visit rules place .nested) m) r.content
    return .inline { r with content }

/-- Applies a step to a thing that is here, and to no reference. -/
def forInline {α : Type} (step : α → Step α) : Referable α → Step (Referable α)
  | .ref path => return .ref path
  | .inline value => return .inline (← step value)

/-- Hoists the schemas of a request body. -/
def walkBody (rules : Rules) (place : String) (b : RequestBody) : Step RequestBody :=
  return { b with content := ← walkContent rules place b.content }

/-- Hoists the schemas of an operation. -/
def walkOperation (rules : Rules) (name : String) (op : Operation) : Step Operation := do
  let parameters ← op.parameters.mapM (forInline (walkParameter rules name))
  let requestBody ← match op.requestBody with
    | some b => some <$> forInline (walkBody rules (name ++ "_Request")) b
    | none => pure none
  let responses ← forValues
    (fun code r => walkResponse rules (name ++ "_Response_" ++ code) r) op.responses
  return { op with parameters, requestBody, responses }

/-- Hoists the schemas of the operations of a path. -/
def walkPath (rules : Rules) (path : String) (p : PathItem) : Step PathItem :=
  HttpMethod.all.foldlM (fun p m =>
    match p.operation? m with
    | none => return p
    | some op => do
      let name := op.operationId.getD (Names.operationId path m.text)
      return p.setOperation m (some (← walkOperation rules name op))) p

/-- Hoists the schemas of the components. -/
def walkComponents (rules : Rules) (c : Components) : Step Components := do
  let schemas ← forValues (fun key r => walkPart rules key r) c.schemas
  let requestBodies ← forValues
    (fun key b => forInline (walkBody rules (key ++ "_request")) b) c.requestBodies
  return { c with schemas, requestBodies }

/-- Hoists the schemas of a document. -/
def walkDocument (rules : Rules) (d : Document) : Step Document := do
  let components ← match d.components with
    | some c => some <$> walkComponents rules c
    | none => pure none
  let paths ← forValues (walkPath rules) d.paths
  return { d with components, paths }

end Hoisting

open Hoisting

/-- The document with its anonymous schemas hoisted; the new components follow the old ones. -/
def Document.hoisted (d : Document) (rules : Rules) : Document :=
  let (walked, pool) := walkDocument rules d { used := d.parts.schemas.keys }
  if pool.added.isEmpty then walked
  else
    let c := walked.parts
    let added := pool.added.entries.map fun (k, s) => (k, Referable.inline s)
    { walked with components := some { c with schemas := c.schemas.insertAll added } }

end ApiLowering
