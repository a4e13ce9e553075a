import ApiLowering.Document.Schema.Basic

/-!
# Shapes

The shape of a schema is what an object of it looks like: the properties and the required names of
the schema itself and of its inline parts, at any depth.

## Main definitions

* `Shape` — properties and required names.
* `Shape.add` — the shape with that of another schema.
* `Shape.ofSchema` — the shape of a schema.
-/

namespace ApiLowering

/-- Properties and required names. -/
structure Shape where
  properties : Table SchemaRef := {}
  required : List String := []
deriving Inhabited

namespace Shape

/-- Adds properties that are not there yet, and required names. -/
def addOwn (shape : Shape) (s : Schema) : Shape where
  properties := s.properties.entries.foldl (fun t e => t.insertNew e.1 e.2) shape.properties
  required := shape.required ++ s.keywords.required

mutual

/-- The shape with that of another schema; properties that are there already stay as they are. -/
def add (shape : Shape) : Schema → Shape
  | s@{ allOf, .. } => addParts (shape.addOwn s) allOf

/-- The shape with those of some parts. -/
def addParts (shape : Shape) : List SchemaRef → Shape
  | [] => shape
  | r :: rs => addParts (addPart shape r) rs

/-- The shape with that of a part that is here. -/
def addPart (shape : Shape) : SchemaRef → Shape
  | .ref _ => shape
  | .inline s => add shape s

end

/-- The shape of a schema. -/
def ofSchema (s : Schema) : Shape := ({} : Shape).add s

/-- Whether a name is required. -/
def requires (shape : Shape) (name : String) : Bool := shape.required.contains name

end Shape

end ApiLowering
