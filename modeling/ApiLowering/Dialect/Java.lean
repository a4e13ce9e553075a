import ApiLowering.Dialect.Basic

/-!
# Java

## Main definitions

* `Dialect.java` — the dialect.
-/

namespace ApiLowering.Dialect

namespace Java

/-- The words that are no names: local names of generated clients, the words of the language, and
types that generated programs refer to. -/
def keywords : List String :=
  ["localVarPath", "localVarQueryParams", "localVarCollectionQueryParams", "localVarHeaderParams",
    "localVarCookieParams", "localVarFormParams", "localVarPostBody", "localVarAccepts",
    "localVarAccept", "localVarContentTypes", "localVarContentType", "localVarAuthNames",
    "localReturnType", "ApiClient", "ApiException", "ApiResponse", "Configuration", "StringUtil",
    "abstract", "continue", "for", "new", "switch", "assert", "default", "if", "package",
    "synchronized", "boolean", "do", "goto", "private", "this", "break", "double", "implements",
    "protected", "throw", "byte", "else", "import", "public", "throws", "case", "enum",
    "instanceof", "return", "transient", "catch", "extends", "int", "short", "try", "char",
    "final", "interface", "static", "void", "class", "finally", "long", "strictfp", "volatile",
    "const", "float", "native", "super", "while", "null", "record", "var", "yield", "Object",
    "List", "File", "OffsetDateTime", "LocalDate", "LocalTime"]

/-- The types that need no import. -/
def builtinTypes : List String :=
  ["String", "boolean", "Boolean", "Double", "double", "Integer", "int", "Long", "long", "Float",
    "float", "Object", "byte[]", "Character", "char", "Byte", "byte", "Short", "short", "Void"]

/-- The spellings of a scalar. -/
def scalar : Primitive → ScalarName
  | .char => ⟨"Character", some "char"⟩
  | .byte => ⟨"Byte", some "byte"⟩
  | .short => ⟨"Short", some "short"⟩
  | .int => ⟨"Integer", some "int"⟩
  | .long => ⟨"Long", some "long"⟩
  | .float => ⟨"Float", some "float"⟩
  | .double => ⟨"Double", some "double"⟩

/-- A reserved word takes an underscore in front, so a name loses it if a reserved word remains. -/
def unescape (isReserved : String → Bool) (name : String) : String :=
  match Text.stripStart? "_" name with
  | some rest => if isReserved rest then rest else name
  | none => name

/-- A list or a set, from its values if there are any. -/
def collectionInit (isSet : Bool) (values : Option String) : String :=
  let container := if isSet then "LinkedHashSet" else "ArrayList"
  match values with
  | none => "new " ++ container ++ "<>()"
  | some vs =>
    if vs == "" then "new " ++ container ++ "<>()"
    else "new " ++ container ++ "<>(Arrays.asList(" ++ vs ++ "))"

/-- A number. -/
def numberLiteral (raw : String) : NumberKind → String
  | .int => raw
  | .long => raw ++ "L"
  | .float => raw ++ "F"
  | .double => raw ++ "D"
  | .bigDecimal => "new BigDecimal(\"" ++ raw ++ "\")"
  | .bigInteger => "new BigInteger(\"" ++ raw ++ "\")"

end Java

/-- A point in time from its text. -/
def offsetDateTime (iso : String) : String :=
  "OffsetDateTime.parse(\"" ++ iso ++ "\", java.time.format.DateTimeFormatter" ++
    ".ISO_ZONED_DATE_TIME.withZone(java.time.ZoneId.systemDefault()))"

/-- A fixed point in time. -/
def offsetDateTimeExample : String :=
  "OffsetDateTime.of(2001, 2, 3, 12, 0, 0, 0, java.time.ZoneOffset.of(\"+02:00\"))"

/-- The dialect of Java. -/
def java : Dialect where
  language := .java
  keywords := Java.keywords
  builtinTypes := Java.builtinTypes
  basicTypes :=
    [("integer", "Integer"), ("char", "Character"), ("ByteArray", "byte[]"), ("object", "Object")]
  ownImports :=
    [("List", "java.util.List"), ("Set", "java.util.Set"), ("Map", "java.util.Map"),
      ("ArrayList", "java.util.ArrayList"), ("LinkedHashSet", "java.util.LinkedHashSet"),
      ("HashMap", "java.util.HashMap"), ("HashSet", "java.util.HashSet"),
      ("Arrays", "java.util.Arrays"), ("Function", "java.util.function.Function")]
  scalar := Java.scalar
  supportsPrimitives := true
  escapeWord word := "_" ++ word
  unescape := Java.unescape
  voidType := "Void"
  notNullAnnotation := some "@NotNull"
  nullableMarker := ""
  fieldAnnotationStart := ""
  instantiate typeName args := "new " ++ typeName ++ "(" ++ args ++ ")"
  collectionInit := Java.collectionInit
  emptyMapInit := "new HashMap<>()"
  numberLiteral := Java.numberLiteral
  uriLiteral raw := "URI.create(\"" ++ Text.escape raw ++ "\")"
  uuidLiteral raw := "UUID.fromString(\"" ++ raw ++ "\")"
  localDateLiteral iso := "LocalDate.parse(\"" ++ iso ++ "\")"
  dateTimeLiteral := offsetDateTime
  listExample inner _ := "List.of(" ++ inner ++ ")"
  setExample := "new HashSet<>()"
  mapExample := "new HashMap<>()"
  scalarExamples :=
    [("Integer", "56"), ("Short", "56"), ("Long", "56L"), ("Float", "3.4F"), ("Double", "3.4D"),
      ("Boolean", "false"), ("BigDecimal", "new BigDecimal(\"78\")"),
      ("OffsetDateTime", offsetDateTimeExample), ("LocalDate", "LocalDate.of(2001, 2, 3)"),
      ("LocalDateTime", "LocalDateTime.of(2001, 2, 3, 4, 5)"),
      ("MultipartBody", "MultipartBody.builder().build()")]

end ApiLowering.Dialect
