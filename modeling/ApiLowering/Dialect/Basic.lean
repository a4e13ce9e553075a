import ApiLowering.Options.Basic
import ApiLowering.Text.Words

/-!
# Dialects

What differs between the languages of the generated program: the words that are no names, the names
of built-in types, and the spelling of literals and examples.

## Main definitions

* `Primitive`, `NumberKind` — the scalars that a schema can ask for, and the numbers that have
  literals of their own.
* `Dialect` — one language.
-/

namespace ApiLowering

/-! ## Scalars and numbers -/

/-- A scalar that a schema can ask for by name. -/
inductive Primitive where
  | char
  | byte
  | short
  | int
  | long
  | float
  | double
deriving Repr, DecidableEq, Inhabited

namespace Primitive

/-- The scalar that an extension names. -/
def ofText? (s : String) : Option Primitive :=
  match s with
  | "char" => some char
  | "Character" => some char
  | "byte" => some byte
  | "short" => some short
  | "int" => some int
  | "long" => some long
  | "float" => some float
  | "double" => some double
  | _ => none

/-- The name of the constructor. -/
def name : Primitive → String
  | char => "Char"
  | byte => "Byte"
  | short => "Short"
  | int => "Int"
  | long => "Long"
  | float => "Float"
  | double => "Double"

end Primitive

/-- The two spellings of a scalar: as an object and, where the language has them, as a primitive. -/
structure ScalarName where
  boxed : String
  primitive : Option String
deriving Repr, DecidableEq

/-- The numbers that have literals of their own. -/
inductive NumberKind where
  | int
  | long
  | float
  | double
  | bigDecimal
  | bigInteger
deriving Repr, DecidableEq, Inhabited

namespace NumberKind

/-- The kind of a data type. -/
def ofType? (dataType : String) : Option NumberKind :=
  if ["Integer", "Int", "Short", "Byte", "int", "short", "byte"].contains dataType then some .int
  else if ["Long", "long"].contains dataType then some .long
  else if ["Float", "float"].contains dataType then some .float
  else if ["Double", "double"].contains dataType then some .double
  else if dataType == "BigDecimal" then some .bigDecimal
  else if dataType == "BigInteger" then some .bigInteger
  else none

end NumberKind

/-! ## Languages -/

/-- A language of generated programs. -/
structure Dialect where
  language : Language
  /-- The words that are no names, those of the framework apart. -/
  keywords : List String
  /-- The types that need no import and are never models. -/
  builtinTypes : List String
  /-- The names of the basic types, by the word that selects them. -/
  basicTypes : List (String × String)
  /-- The packages of types that only this language imports. -/
  ownImports : List (String × String)
  scalar : Primitive → ScalarName
  supportsPrimitives : Bool
  /-- Turns a reserved word into a name. -/
  escapeWord : String → String
  /-- Undoes `escapeWord`; the test tells the reserved words. -/
  unescape : (String → Bool) → String → String
  /-- The type of no value. -/
  voidType : String
  /-- The annotation of container items that are not null, if null is expressed by annotations. -/
  notNullAnnotation : Option String
  /-- What marks a type whose values may be null. -/
  nullableMarker : String
  /-- What precedes the annotations of fields. -/
  fieldAnnotationStart : String
  /-- The creation of an object of a type with arguments. -/
  instantiate : String → String → String
  /-- The creation of a set or a list from values, if there are any. -/
  collectionInit : Bool → Option String → String
  emptyMapInit : String
  numberLiteral : String → NumberKind → String
  uriLiteral : String → String
  uuidLiteral : String → String
  localDateLiteral : String → String
  dateTimeLiteral : String → String
  /-- The example of a list with one item example and the type of its items. -/
  listExample : String → Option String → String
  setExample : String
  mapExample : String
  /-- The examples of built-in types. -/
  scalarExamples : List (String × String)

namespace Dialect

/-- The words that the framework of the generated program reserves. -/
def frameworkWords : List String :=
  ["Client", "Format", "QueryValue", "QueryParam", "PathVariable", "Header", "Cookie",
    "Authorization", "Body", "application"]

/-- The type of one value that is yet to come. -/
def mono : String := "reactor.core.publisher.Mono"

/-- The type of several values that are yet to come. -/
def flux : String := "reactor.core.publisher.Flux"

/-- The type of a whole response. -/
def httpResponse : String := "io.micronaut.http.HttpResponse"

/-- The types that both languages import. -/
def commonImports : List (String × String) :=
  [("BigDecimal", "java.math.BigDecimal"),
    ("BigInteger", "java.math.BigInteger"),
    ("UUID", "java.util.UUID"),
    ("URI", "java.net.URI"),
    ("File", "java.io.File"),
    ("InputStream", "java.io.InputStream"),
    ("DateTime", "java.time.Instant"),
    ("Instant", "java.time.Instant"),
    ("LocalDateTime", "java.time.LocalDateTime"),
    ("OffsetDateTime", "java.time.OffsetDateTime"),
    ("ZonedDateTime", "java.time.ZonedDateTime"),
    ("LocalDate", "java.time.LocalDate"),
    ("LocalTime", "java.time.LocalTime"),
    ("CompletedFileUpload", "io.micronaut.http.multipart.CompletedFileUpload"),
    ("FileCustomizableResponseType",
      "io.micronaut.http.server.types.files.FileCustomizableResponseType"),
    ("HttpResponse", httpResponse),
    ("Mono", mono),
    ("Flux", flux)]

/-- All reserved words. -/
def reservedWords (d : Dialect) : List String := d.keywords ++ frameworkWords

/-- Whether a type is built in. -/
def isBuiltin (d : Dialect) (typeName : String) : Bool := d.builtinTypes.contains typeName

/-- The types of files: sent to a server, and in a response. -/
def fileTypes (o : Options) : String × String :=
  if o.isServer then ("CompletedFileUpload", "FileCustomizableResponseType")
  else ("File", "InputStream")

/-- The type of every word, before the caller's own choice. -/
def typeMapping (d : Dialect) (o : Options) : Table String :=
  let (file, responseFile) := fileTypes o
  let name (k : String) : String := (d.basicTypes.lookup k).getD ""
  ⟨[("integer", name "integer"), ("long", "Long"), ("number", "BigDecimal"),
    ("decimal", "BigDecimal"), ("float", "Float"), ("double", "Double"), ("boolean", "Boolean"),
    ("string", "String"), ("char", name "char"), ("byte", "Byte"), ("date", "LocalDate"),
    ("DateTime", o.dateTimeFormat.typeName), ("UUID", "UUID"), ("URI", "URI"),
    ("ByteArray", name "ByteArray"), ("binary", file), ("file", file),
    ("responseFile", responseFile), ("object", name "object"), ("AnyType", name "object"),
    ("array", "List"), ("set", "Set"), ("map", "Map")]⟩

/-- The package of every type, before the caller's own choice. -/
def importMapping (d : Dialect) : Table String := ⟨commonImports ++ d.ownImports⟩

/-- The literal of a text. -/
def stringLiteral (s : String) : String := "\"" ++ Text.escape s ++ "\""

/-- The example of a built-in type. -/
def scalarExample? (d : Dialect) (dataType : String) : Option String :=
  d.scalarExamples.lookup dataType

end Dialect

end ApiLowering
