import ApiLowering.Document.Parameter

/-!
# Mappings of parameters and response bodies

A mapping replaces what it matches by a type of the caller's choice.

## Main definitions

* `MappedLocation` — where a parameter travels, bodies and forms included.
* `ParameterMapping` — selectors, and what stands in for the parameters that all of them fit.
* `ResponseBodyMapping` — a header, and the type that wraps the body if the header is declared.
-/

namespace ApiLowering

/-- Where a parameter travels. -/
inductive MappedLocation where
  | query
  | header
  | path
  | cookie
  | body
  | form
deriving Repr, DecidableEq, Inhabited

namespace MappedLocation

/-- The name of a location. -/
def text : MappedLocation → String
  | query => "QUERY"
  | header => "HEADER"
  | path => "PATH"
  | cookie => "COOKIE"
  | body => "BODY"
  | form => "FORM"

/-- The location of a name. -/
def ofText? (s : String) : Option MappedLocation :=
  [query, header, path, cookie, body, form].find? (·.text == s)

/-- The location of a declared parameter. -/
def ofParameter : ParameterLocation → MappedLocation
  | .query => query
  | .header => header
  | .path => path
  | .cookie => cookie

end MappedLocation

/-- Replaces the matching parameters by a single one. -/
structure ParameterMapping where
  name : Option String := none
  location : Option MappedLocation := none
  dataType : Option String := none
  mappedType : Option String := none
  mappedName : Option String := none
  isValidated : Bool := false
deriving Repr, DecidableEq, Inhabited

namespace ParameterMapping

/-- Whether every selector that is given has the parameter's value. -/
def fits (m : ParameterMapping) (baseName : String) (location : MappedLocation)
    (dataType : String) : Bool :=
  m.name.all (· == baseName) && m.location.all (· == location) && m.dataType.all (· == dataType)

/-- Reads a mapping. -/
def read? (t : Tree) : Option ParameterMapping := do
  let f ← Fields.lenient? ["name", "location", "type", "mappedType", "mappedName",
    "isValidated"] t
  return {
    name := ← f.optional? "name" Tree.text?
    location := ← f.optional? "location" (readChoice? MappedLocation.ofText? [])
    dataType := ← f.optional? "type" Tree.text?
    mappedType := ← f.optional? "mappedType" Tree.text?
    mappedName := ← f.optional? "mappedName" Tree.text?
    isValidated := ← f.defaulted? "isValidated" Tree.bool? false }

/-- A mapping as a value. -/
def toJson (m : ParameterMapping) : Json :=
  .object [("name", .ofString? m.name),
    ("location", .ofString? (m.location.map MappedLocation.text)),
    ("type", .ofString? m.dataType), ("mappedType", .ofString? m.mappedType),
    ("mappedName", .ofString? m.mappedName), ("isValidated", .bool m.isValidated)]

end ParameterMapping

/-- Wraps the body of a response that declares a header. -/
structure ResponseBodyMapping where
  headerName : String := ""
  mappedBodyType : Option String := none
  isListWrapper : Bool := false
  isValidated : Bool := false
deriving Repr, DecidableEq, Inhabited

namespace ResponseBodyMapping

/-- Whether the mapping is for a header, in any letter case, and for arrays or for all else. -/
def fits (m : ResponseBodyMapping) (header : String) (isArray : Bool) : Bool :=
  Text.equalsIgnoringCase m.headerName header && m.isListWrapper == isArray

/-- Reads a mapping. -/
def read? (t : Tree) : Option ResponseBodyMapping := do
  let f ← Fields.lenient? ["headerName", "mappedBodyType", "isListWrapper", "isValidated"] t
  return {
    headerName := ← f.defaulted? "headerName" Tree.text? ""
    mappedBodyType := ← f.optional? "mappedBodyType" Tree.text?
    isListWrapper := ← f.defaulted? "isListWrapper" Tree.bool? false
    isValidated := ← f.defaulted? "isValidated" Tree.bool? false }

/-- A mapping as a value. -/
def toJson (m : ResponseBodyMapping) : Json :=
  .object [("headerName", .string m.headerName), ("mappedBodyType", .ofString? m.mappedBodyType),
    ("isListWrapper", .bool m.isListWrapper), ("isValidated", .bool m.isValidated)]

end ResponseBodyMapping

end ApiLowering
