import ApiLowering.Dialect.Java

/-!
# Kotlin

## Main definitions

* `Dialect.kotlin` — the dialect.
* `Language.dialect` — the dialect of a language.
-/

namespace ApiLowering.Dialect

namespace Kotlin

/-- The words that are no names. -/
def keywords : List String :=
  ["ApiResponse", "abstract", "actual", "annotation", "as", "break", "class", "companion",
    "const", "constructor", "continue", "crossinline", "data", "delegate", "do", "dynamic",
    "else", "enum", "expect", "external", "false", "field", "final", "finally", "for", "fun",
    "if", "import", "in", "infix", "init", "inline", "inner", "interface", "internal", "is", "it",
    "lateinit", "noinline", "null", "object", "open", "operator", "out", "override", "package",
    "param", "private", "property", "protected", "public", "receiver", "reified", "return",
    "sealed", "setparam", "super", "suspend", "tailrec", "this", "throw", "true", "try",
    "typealias", "typeof", "val", "value", "var", "vararg", "when", "where", "while"]

/-- The types that need no import. -/
def builtinTypes : List String :=
  ["String", "Boolean", "Char", "Byte", "Short", "Int", "Long", "Float", "Double", "ByteArray",
    "Any", "Unit"]

/-- The spellings of a scalar. The language has no primitives. -/
def scalar : Primitive → ScalarName
  | .char => ⟨"Char", none⟩
  | .byte => ⟨"Byte", none⟩
  | .short => ⟨"Short", none⟩
  | .int => ⟨"Int", none⟩
  | .long => ⟨"Long", none⟩
  | .float => ⟨"Float", none⟩
  | .double => ⟨"Double", none⟩

/-- The mark on both sides of a reserved word that is used as a name. -/
def wordMark : Char := '\x60'

/-- A list or a set, from its values if there are any. -/
def collectionInit (isSet : Bool) (values : Option String) : String :=
  (if isSet then "setOf" else "arrayListOf") ++ "(" ++ values.getD "" ++ ")"

/-- A number. -/
def numberLiteral (raw : String) : NumberKind → String
  | .int => raw
  | .long => raw ++ "L"
  | .float => raw ++ "F"
  | .double => if Text.containsChar raw '.' then raw else raw ++ ".0"
  | .bigDecimal => "BigDecimal(\"" ++ raw ++ "\")"
  | .bigInteger => "BigInteger(\"" ++ raw ++ "\")"

/-- A list with one item, or an empty one of a type. -/
def listExample (inner : String) (itemsType : Option String) : String :=
  if inner == "" then "listOf<" ++ itemsType.getD "Any" ++ ">()" else "listOf(" ++ inner ++ ")"

end Kotlin

/-- The dialect of Kotlin. -/
def kotlin : Dialect where
  language := .kotlin
  keywords := Kotlin.keywords
  builtinTypes := Kotlin.builtinTypes
  basicTypes := [("integer", "Int"), ("char", "Char"), ("ByteArray", "ByteArray"),
    ("object", "Any")]
  ownImports := []
  scalar := Kotlin.scalar
  supportsPrimitives := false
  escapeWord word := String.singleton Kotlin.wordMark ++ word ++ String.singleton Kotlin.wordMark
  unescape _ name := Text.replaceChar name Kotlin.wordMark ""
  voidType := "Unit"
  notNullAnnotation := none
  nullableMarker := "?"
  fieldAnnotationStart := "field:"
  instantiate typeName args := typeName ++ "(" ++ args ++ ")"
  collectionInit := Kotlin.collectionInit
  emptyMapInit := "HashMap()"
  numberLiteral := Kotlin.numberLiteral
  uriLiteral raw := "java.net.URI.create(\"" ++ Text.escape raw ++ "\")"
  uuidLiteral raw := "UUID.fromString(\"" ++ raw ++ "\")"
  localDateLiteral iso := "LocalDate.parse(\"" ++ iso ++ "\")"
  dateTimeLiteral := offsetDateTime
  listExample := Kotlin.listExample
  setExample := "HashSet<Any>()"
  mapExample := "HashMap<Any, Any>()"
  scalarExamples :=
    [("Int", "56"), ("Short", "56"), ("Long", "56L"), ("Float", "3.4F"), ("Double", "3.4D"),
      ("Boolean", "false"), ("BigDecimal", "BigDecimal(\"78\")"), ("ByteArray", "ByteArray(10)"),
      ("OffsetDateTime", offsetDateTimeExample), ("LocalDate", "LocalDate.of(2001, 2, 3)"),
      ("LocalDateTime", "LocalDateTime.of(2001, 2, 3, 4, 5)"),
      ("MultipartBody", "MultipartBody.builder().build()")]

end ApiLowering.Dialect

namespace ApiLowering

/-- The dialect of a language. -/
def Language.dialect : Language → Dialect
  | .java => .java
  | .kotlin => .kotlin

end ApiLowering
