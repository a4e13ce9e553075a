import ApiLowering.Document.Schema.Reader
import ApiLowering.Document.Schema.Writer

/-!
# Contents

What a body or a parameter holds in one media type.

## Main definitions

* `MediaType` — a schema with examples and the encodings of its parts.
* `Content.isForm` — whether a media type is one of the two form encodings.
-/

namespace ApiLowering

/-! ## Names of media types -/

namespace Content

/-- The media type of JSON. -/
def json : String := "application/json"

/-- The form encoding of key-value pairs. -/
def urlEncoded : String := "application/x-www-form-urlencoded"

/-- The form encoding in several parts. -/
def multipart : String := "multipart/form-data"

/-- Any media type. -/
def any : String := "*/*"

/-- A media type without its parameters. -/
def withoutParameters (mediaType : String) : String :=
  Text.trimBlanks (String.ofList (mediaType.toList.takeWhile (· != ';')))

/-- Whether a media type is one of the two form encodings, in any letter case. -/
def isForm (mediaType : String) : Bool :=
  let base := withoutParameters mediaType
  Text.equalsIgnoringCase base urlEncoded || Text.equalsIgnoringCase base multipart

end Content

/-! ## Media types -/

/-- How one part of a form is encoded. -/
structure Encoding where
  contentType : Option String
  headers : Table Json
  style : Option String
  explode : Option Bool
deriving Repr, Inhabited

/-- What a content holds in one media type. -/
structure MediaType where
  schema : Option SchemaRef := none
  encoding : Table Encoding := {}
  sample : Option Json := none
  samples : Table Json := {}
  extensions : Table Json := {}

instance : Inhabited MediaType := ⟨{}⟩

namespace Encoding

/-- Reads an encoding. -/
def read? (t : Tree) : Option Encoding := do
  let f ← Fields.closed? ["contentType", "headers", "style", "explode"] t
  return {
    contentType := ← f.optional? "contentType" Tree.text?
    headers := ← f.defaulted? "headers" (Tree.table? Tree.toJson?) {}
    style := ← f.optional? "style" Tree.text?
    explode := ← f.optional? "explode" Tree.bool? }

/-- An encoding as a value. -/
def toJson (e : Encoding) : Json :=
  .object (Json.member? "contentType" e.contentType .string ++
    Json.tableMember "headers" e.headers id ++
    Json.member? "style" e.style .string ++
    Json.member? "explode" e.explode .bool)

end Encoding

namespace MediaType

/-- Reads a media type. -/
def read? (t : Tree) : Option MediaType := do
  let f ← Fields.open? ["schema", "encoding", "example", "examples"] t
  return {
    schema := ← f.optional? "schema" Schema.readRef?
    encoding := ← f.defaulted? "encoding" (Tree.table? Encoding.read?) {}
    sample := ← f.optional? "example" Tree.toJson?
    samples := ← f.defaulted? "examples" (Tree.table? Tree.toJson?) {}
    extensions := ← f.extensions? }

/-- A media type as a value. -/
def toJson (m : MediaType) : Json :=
  .object (Json.member? "schema" m.schema Schema.refJson ++
    Json.tableMember "encoding" m.encoding Encoding.toJson ++
    Json.member? "example" m.sample id ++
    Json.tableMember "examples" m.samples id ++
    m.extensions.entries)

end MediaType

end ApiLowering
