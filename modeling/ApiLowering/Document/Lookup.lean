import ApiLowering.Document.Basic

/-!
# Following references

Components may be references to other components of the same section. Following them ends at a
thing, at a missing component, or at a component that was visited before.

## Main definitions

* `Reference.follow` — the thing at the end of a chain of references, with its key.
* `Components.schema`, `Components.response`, … — the chains of each section.

## Main results

* `Reference.follow_inline`, `Reference.follow_ref` — the two kinds of steps along a chain.
-/

namespace ApiLowering

namespace Reference

variable {α : Type}

/-- Follows references within a section. The first list holds the keys that have not been visited;
each step takes one of them away, so the chain ends. -/
def follow (wanted : String) (entries : Table (Referable α)) (circular : String → Fault)
    (unvisited : List String) (path : String) : Except Fault (String × α) :=
  match keyIn wanted path with
  | .error f => .error f
  | .ok key =>
    match entries.find? key with
    | none => .error (.unresolved path)
    | some target =>
      if key ∈ unvisited then
        match target with
        | .inline value => .ok (key, value)
        | .ref next => follow wanted entries circular (unvisited.erase key) next
      else .error (circular path)
termination_by unvisited.length
decreasing_by
  rename_i h
  have := List.length_erase_of_mem h
  have := List.length_pos_of_mem h
  omega

/-- A chain ends at a thing. -/
theorem follow_inline {wanted path key : String} {entries : Table (Referable α)}
    {circular : String → Fault} {unvisited : List String} {value : α}
    (hkey : keyIn wanted path = .ok key) (hfind : entries.find? key = some (.inline value))
    (hmem : key ∈ unvisited) :
    follow wanted entries circular unvisited path = .ok (key, value) := by
  rw [follow]
  simp [hkey, hfind, hmem]

/-- A chain goes on at a reference. -/
theorem follow_ref {wanted path key next : String} {entries : Table (Referable α)}
    {circular : String → Fault} {unvisited : List String}
    (hkey : keyIn wanted path = .ok key) (hfind : entries.find? key = some (.ref next))
    (hmem : key ∈ unvisited) :
    follow wanted entries circular unvisited path =
      follow wanted entries circular (unvisited.erase key) next := by
  rw [follow]
  simp [hkey, hfind, hmem]

end Reference

/-- The response or the reference, without the description beside the latter. -/
def ResponseRef.target : ResponseRef → Referable Response
  | .ref path _ => .ref path
  | .inline r => .inline r

namespace Components

/-- The fault of a chain of schema references that leads back to itself. -/
def circularSchema (path : String) : Fault := .unresolved s!"circular reference chain at {path}"

/-- The schema that a reference leads to, with the key of the component that holds it. -/
def schema (c : Components) (path : String) : Except Fault (String × Schema) :=
  Reference.follow "schemas" c.schemas circularSchema c.schemas.keys path

/-- A schema with the key of the component that holds it, if it was a reference. -/
def resolveSchema (c : Components) : SchemaRef → Except Fault (Option String × Schema)
  | .inline s => .ok (none, s)
  | .ref path => (c.schema path).map fun (key, s) => (some key, s)

/-- A parameter, by a reference or not. -/
def parameter (c : Components) : ParameterRef → Except Fault Parameter
  | .inline p => .ok p
  | .ref path =>
    (Reference.follow "parameters" c.parameters .unresolved c.parameters.keys path).map (·.2)

/-- A request body, by a reference or not. -/
def requestBody (c : Components) : RequestBodyRef → Except Fault RequestBody
  | .inline b => .ok b
  | .ref path =>
    (Reference.follow "requestBodies" c.requestBodies .unresolved c.requestBodies.keys path).map
      (·.2)

/-- The response that a reference leads to. -/
def response (c : Components) (path : String) : Except Fault Response :=
  (Reference.follow "responses" (c.responses.map ResponseRef.target) .unresolved c.responses.keys
    path).map (·.2)

/-- The header that a reference leads to. -/
def header (c : Components) (path : String) : Except Fault Header :=
  (Reference.follow "headers" c.headers .unresolved c.headers.keys path).map (·.2)

end Components

/-- The components of a document; a document without them has none. -/
def Document.parts (d : Document) : Components := d.components.getD {}

end ApiLowering
