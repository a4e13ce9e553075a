import ApiLowering.Distinct
import ApiLowering.Document.Schema.Reader
import ApiLowering.Document.Schema.Writer

/-!
# Canonical schemas

Different schemas may say the same. In the canonical form the parts of a composition are distinct,
references first and at most one inline schema after them, and a schema that is only another name
for a component is the reference to it.

A schema takes its canonical form from the leaves to the root: first its children, then itself.

## Main definitions

* `Canonical.Switches` — what the form does besides.
* `Schema.mergeParts` — one inline part in the place of several.
* `Schema.lift` — what a sole inline part says is said by the whole.
* `Schema.collapse` — the reference or the alternative that a schema comes down to.
* `Schema.canonical`, `Schema.canonicalRef` — the canonical form.
-/

namespace ApiLowering

/-! ## Merging values -/

namespace Json

mutual

/-- Merges a second value into a first: objects member by member, arrays without repetition; of any
other two values the second one stays. -/
def merge : Json → Json → Json
  | .members xs, .members ys => .members (mergeMembers xs ys)
  | .array xs, .array ys =>
    .array (ys.foldl (fun acc y => if acc.any (·.same y) then acc else acc ++ [y]) xs)
  | _, .null => .null
  | _, .bool b => .bool b
  | _, .number n => .number n
  | _, .string s => .string s
  | .null, .array ys => .array ys
  | .bool _, .array ys => .array ys
  | .number _, .array ys => .array ys
  | .string _, .array ys => .array ys
  | .members _, .array ys => .array ys
  | .null, .members ys => .members ys
  | .bool _, .members ys => .members ys
  | .number _, .members ys => .members ys
  | .string _, .members ys => .members ys
  | .array _, .members ys => .members ys

/-- Merges the members of a second object into those of a first. -/
def mergeMembers (xs : List (String × Json)) : List (String × Json) → List (String × Json)
  | [] => xs
  | y :: ys => mergeMembers (mergeMember xs y) ys

/-- Merges one member into an object. -/
def mergeMember (xs : List (String × Json)) : String × Json → List (String × Json)
  | (k, v) =>
    match lookup k xs with
    | some w => enter k (merge w v) xs
    | none => enter k v xs

end

end Json

namespace Canonical

/-- What the canonical form does besides. -/
structure Switches where
  /-- Whether null alternatives and sole alternatives disappear. -/
  simplifyAlternatives : Bool := false
  /-- Whether a schema with properties loses its alternatives. -/
  keepPropertiesOnly : Bool := false
  /-- The tag of all operations. -/
  tag : Option String := none
deriving Repr, DecidableEq, Inhabited

end Canonical

namespace Schema

open Canonical

/-! ## Repetitions and alternatives -/

/-- The schema without repeated parts and names, and without an empty list of types. -/
def distinctParts (s : Schema) : Schema :=
  { s with
    keywords.types := if s.keywords.types == some (.several []) then none else s.keywords.types
    keywords.required := distinctBy id s.keywords.required
    allOf := distinctWith sameRef s.allOf
    oneOf := distinctWith sameRef s.oneOf
    anyOf := distinctWith sameRef s.anyOf }

/-- Whether null is the only value. -/
def isNull (s : Schema) : Bool :=
  match s.keywords.types with
  | some (.one t) => t == .null
  | some (.several ts) => !ts.isEmpty && ts.all (· == .null)
  | none => false

/-- Whether an alternative is an inline schema of null. -/
def isNullAlternative (r : SchemaRef) : Bool := r.inline?.any isNull

/-- Drops the alternatives of a schema with properties. -/
def dropAlternatives (sw : Switches) (s : Schema) : Schema :=
  if sw.keepPropertiesOnly && !s.properties.isEmpty then { s with oneOf := [], anyOf := [] } else s

/-- Turns null alternatives into the keyword that says the same. -/
def dropNulls (sw : Switches) (s : Schema) : Schema :=
  if sw.simplifyAlternatives && (s.oneOf ++ s.anyOf).any isNullAlternative then
    { s with
      keywords.nullable := some true
      oneOf := s.oneOf.filter (!isNullAlternative ·)
      anyOf := s.anyOf.filter (!isNullAlternative ·) }
  else s

/-! ## Parts -/

/-- A part of a schema without what the schema says itself: any description, and the same default.
-/
def withoutRepeated (outer inner : Schema) : Schema :=
  let repeatedDefault := match inner.keywords.defaultValue, outer.keywords.defaultValue with
    | some v, some w => v.same w
    | _, _ => false
  { inner with
    keywords.description :=
      if outer.keywords.description.isSome then none else inner.keywords.description
    keywords.defaultValue := if repeatedDefault then none else inner.keywords.defaultValue }

/-- The references among some parts. -/
def references (rs : List SchemaRef) : List SchemaRef := rs.filter Referable.isRef

/-- The inline schemas among some parts. -/
def inlines (rs : List SchemaRef) : List Schema := rs.filterMap Referable.inline?

/-- The references first, then the inline parts without what the schema says itself. -/
def orderParts (s : Schema) : Schema :=
  { s with
    allOf := references s.allOf ++ (inlines s.allOf).map fun p => .inline (s.withoutRepeated p) }

/-- Merges schemas as values. -/
def mergeAll (ss : List Schema) : Option SchemaRef :=
  readRef? (Tree.ofJson (ss.foldl (fun acc s => acc.merge s.toJson) (.members [])))

/-- One inline part in the place of several, where the last one that says something stays. -/
def mergeParts (s : Schema) : Schema :=
  match inlines s.allOf with
  | a :: b :: rest =>
    match mergeAll (a :: b :: rest) with
    | some merged => { s with allOf := references s.allOf ++ [merged] }
    | none => s
  | _ => s

/-- What is left of a keyword of a part, if the whole takes it where it says nothing itself. -/
def leftOver {α : Type} (outer inner : Option α) : Option α := if outer.isNone then none else inner

/-- The list that the whole takes from its part, if its own one is empty. -/
def takenList {α : Type} (outer inner : List α) : List α := if outer.isEmpty then inner else outer

/-- What is left of a list of a part. -/
def leftOverList {α : Type} (outer inner : List α) : List α := if outer.isEmpty then [] else inner

/-- The whole with what its only inline part says. -/
def lifted (outer inner : Schema) : Schema :=
  let o := outer.keywords
  let i := inner.keywords
  { outer with
    keywords := { o with
      title := o.title <|> i.title
      description := o.description <|> i.description
      deprecated := o.deprecated <|> i.deprecated
      nullable := o.nullable <|> i.nullable
      defaultValue := o.defaultValue <|> i.defaultValue
      sample := o.sample <|> i.sample
      samples := o.samples <|> i.samples
      externalDocs := o.externalDocs <|> i.externalDocs
      readOnly := o.readOnly <|> i.readOnly
      required := takenList o.required i.required }
    additional := outer.additional <|> inner.additional
    negated := outer.negated <|> inner.negated
    oneOf := takenList outer.oneOf inner.oneOf
    anyOf := takenList outer.anyOf inner.anyOf }

/-- The inline part without what the whole has taken. -/
def remainder (outer inner : Schema) : Schema :=
  let o := outer.keywords
  let i := inner.keywords
  { inner with
    keywords := { i with
      title := leftOver o.title i.title
      description := leftOver o.description i.description
      deprecated := leftOver o.deprecated i.deprecated
      nullable := leftOver o.nullable i.nullable
      defaultValue := leftOver o.defaultValue i.defaultValue
      sample := leftOver o.sample i.sample
      samples := leftOver o.samples i.samples
      externalDocs := leftOver o.externalDocs i.externalDocs
      readOnly := leftOver o.readOnly i.readOnly
      required := leftOverList o.required i.required }
    additional := leftOver outer.additional inner.additional
    negated := leftOver outer.negated inner.negated
    oneOf := leftOverList outer.oneOf inner.oneOf
    anyOf := leftOverList outer.anyOf inner.anyOf }

/-- Puts a part in the place of the inline ones; an empty part is no part. -/
def replaceInline (part : Schema) (rs : List SchemaRef) : List SchemaRef :=
  if part.isEmpty then references rs
  else rs.map fun r => if r.isRef then r else .inline part

/-- What a sole inline part says is said by the whole, where the whole says nothing itself. -/
def lift (s : Schema) : Schema :=
  match inlines s.allOf with
  | [inner] => { s.lifted inner with allOf := replaceInline (s.remainder inner) s.allOf }
  | _ => s

/-! ## Whole schemas -/

/-- The reference that a schema is another name for: its only part, if it says nothing but a type
itself. -/
def alias? (s : Schema) : Option String :=
  match s.allOf with
  | [.ref path] =>
    if { s with allOf := [], keywords.types := none : Schema }.isEmpty then some path else none
  | _ => none

/-- A sole alternative stands for the whole schema if that says no more than a description and that
null is a value; otherwise it becomes a part. Left is a final result, right a schema to go on with.
-/
def absorb (s : Schema) (alternative : SchemaRef) : SchemaRef ⊕ Schema :=
  let asPart : SchemaRef ⊕ Schema := .inr { s with allOf := s.allOf ++ [alternative] }
  if { s with keywords.description := none, keywords.nullable := none : Schema }.isEmpty then
    if s.keywords.nullable != some true then .inl alternative
    else match alternative with
      | .ref _ => asPart
      | .inline inner =>
        .inl (.inline { inner with
          keywords.nullable := some true
          keywords.description := inner.keywords.description <|> s.keywords.description })
  else asPart

/-- Absorbs a sole alternative of the first kind. -/
def absorbOneOf (s : Schema) : SchemaRef ⊕ Schema :=
  match s.oneOf with
  | [r] => { s with oneOf := [] : Schema }.absorb r
  | _ => .inr s

/-- Absorbs a sole alternative of the second kind. -/
def absorbAnyOf (s : Schema) : SchemaRef ⊕ Schema :=
  match s.anyOf with
  | [r] => { s with anyOf := [] : Schema }.absorb r
  | _ => .inr s

/-- The schema with its sole alternatives absorbed. -/
def absorbAlternatives (s : Schema) : SchemaRef :=
  match s.absorbOneOf with
  | .inl r => r
  | .inr s =>
    match s.absorbAnyOf with
    | .inl r => r
    | .inr s => .inline s

/-- The reference or the alternative that a schema comes down to, or the schema itself. -/
def collapse (sw : Switches) (s : Schema) : SchemaRef :=
  match s.alias? with
  | some path => .ref path
  | none => if sw.simplifyAlternatives then s.absorbAlternatives else .inline s

/-- Merges the inline parts if there are several parts. -/
def unifyParts (s : Schema) : Schema :=
  if s.allOf.length > 1 then s.orderParts.mergeParts else s

/-- An empty schema describes objects. -/
def withType (s : Schema) : Schema := if s.isEmpty then .ofType .object else s

/-- The canonical form of a schema whose children have theirs. -/
def canonicalNode (sw : Switches) (s : Schema) : SchemaRef :=
  ((((s.distinctParts.dropAlternatives sw).dropNulls sw).unifyParts).lift.withType).collapse sw

/-! ## Trees of schemas -/

mutual

/-- The canonical form of a schema. -/
def canonical (sw : Switches) : Schema → SchemaRef
  | { keywords, properties, items, additional, negated, allOf, oneOf, anyOf } =>
    canonicalNode sw {
      keywords
      properties := canonicalTable sw properties
      items := canonicalOption sw items
      additional := canonicalAdditional sw additional
      negated := canonicalOption sw negated
      allOf := canonicalList sw allOf
      oneOf := canonicalList sw oneOf
      anyOf := canonicalList sw anyOf }

/-- The canonical form of a schema or a reference. -/
def canonicalRef (sw : Switches) : SchemaRef → SchemaRef
  | .ref path => .ref path
  | .inline s => canonical sw s

/-- The canonical forms of a table of schemas. -/
def canonicalTable (sw : Switches) : Table SchemaRef → Table SchemaRef
  | ⟨es⟩ => ⟨canonicalEntries sw es⟩

/-- The canonical forms of the entries of a table. -/
def canonicalEntries (sw : Switches) : List (String × SchemaRef) → List (String × SchemaRef)
  | [] => []
  | e :: es => canonicalEntry sw e :: canonicalEntries sw es

/-- The canonical form of one entry. -/
def canonicalEntry (sw : Switches) : String × SchemaRef → String × SchemaRef
  | (k, r) => (k, canonicalRef sw r)

/-- The canonical form of a schema that may be missing. -/
def canonicalOption (sw : Switches) : Option SchemaRef → Option SchemaRef
  | none => none
  | some r => some (canonicalRef sw r)

/-- The canonical form of what is said of further properties. -/
def canonicalAdditional (sw : Switches) :
    Option (Additional SchemaRef) → Option (Additional SchemaRef)
  | none => none
  | some a => some (canonicalValues sw a)

/-- The canonical form of the schema of further properties. -/
def canonicalValues (sw : Switches) : Additional SchemaRef → Additional SchemaRef
  | .allowed b => .allowed b
  | .values r => .values (canonicalRef sw r)

/-- The canonical forms of a list of schemas. -/
def canonicalList (sw : Switches) : List SchemaRef → List SchemaRef
  | [] => []
  | r :: rs => canonicalRef sw r :: canonicalList sw rs

end

end Schema

end ApiLowering
