import ApiLowering.Dialect.Kotlin

/-!
# Names

The names of the generated program: properties, parameters, classes, interfaces and the constants of
enumerations, derived from the names of the document.

## Main definitions

* `Names` — the rules in force for one set of options.
* `Names.propertyName`, `Names.parameterName` — names of properties and parameters.
* `Names.className` — names of classes, with a warning if a name had to be changed.
* `Names.interfaceName` — names of interfaces.
* `Names.constantName?` — names of enumerated values.
-/

namespace ApiLowering

/-- The rules for names. -/
structure Names where
  dialect : Dialect
  /-- The words that are no names. -/
  reserved : List String
  nameMapping : Table String
  parameterNameMapping : Table String
  modelNameMapping : Table String
  enumNameMapping : Table String
  modelNamePrefix : String
  modelNameSuffix : String
  apiNamePrefix : String
  apiNameSuffix : String
  /-- Whether names may have letters and numerals beyond ASCII. -/
  allowUnicode : Bool

namespace Names

/-- The rules for a set of options. -/
def ofOptions (o : Options) : Names where
  dialect := o.language.dialect
  reserved := o.language.dialect.reservedWords ++ o.reservedWordsAugment
  nameMapping := o.nameMapping
  parameterNameMapping := o.parameterNameMapping
  modelNameMapping := o.modelNameMapping
  enumNameMapping := o.enumNameMapping
  modelNamePrefix := o.modelNamePrefix
  modelNameSuffix := o.modelNameSuffix
  apiNamePrefix := o.apiNamePrefix
  apiNameSuffix := o.apiNameSuffix
  allowUnicode := o.allowUnicodeIdentifiers

/-! ## Characters and reserved words -/

/-- Whether a word is reserved. -/
def isReserved (n : Names) (word : String) : Bool := n.reserved.contains word

/-- A word as a name. -/
def escapeIfReserved (n : Names) (word : String) : String :=
  if n.isReserved word then n.dialect.escapeWord word else word

/-- A name without the escaping of reserved words. -/
def unescape (n : Names) (name : String) : String := n.dialect.unescape n.isReserved name

/-- A character of a name, or an underscore in its place. -/
def sanitizeChar (n : Names) (c : Char) : Char :=
  if c.isAlphanum || c == '_' || (n.allowUnicode && Text.isAlphanumeric c) then c else '_'

/-- A text with an underscore for each character that may not stand in a name. -/
def sanitize (n : Names) (s : String) : String := String.ofList (s.toList.map n.sanitizeChar)

/-- Whether a text starts with an ASCII digit. -/
def startsWithDigit (s : String) : Bool := s.toList.head?.any Char.isDigit

/-- The text with its second character in lower case if a capital there follows a small letter. -/
def lowerSecond (s : String) : String :=
  match s.toList with
  | c :: d :: rest =>
    if Text.isLowercase c && Text.isUppercase d then
      String.ofList (c :: (Text.lowercase d).headD d :: rest)
    else s
  | _ => s

/-! ## Properties and parameters -/

/-- The name of a property. Names in capitals stay as they are, others become camel case after their
leading underscores; a leading digit takes an underscore. -/
def propertyName (n : Names) (name : String) : Except Fault String :=
  match n.nameMapping.find? name with
  | some mapped => .ok mapped
  | none =>
    let sanitized := n.sanitize (n.unescape name)
    let cs := sanitized.toList
    if cs.all (· == '_') then .error (.unnameable name)
    else if !startsWithDigit sanitized &&
        cs.all (fun c => c.isUpper || c.isDigit || c == '_') then
      .ok (n.escapeIfReserved sanitized)
    else
      let start := cs.takeWhile (· == '_')
      let body := lowerSecond (Text.lowerCamelCase (String.ofList (cs.dropWhile (· == '_'))))
      let body := if start.isEmpty && startsWithDigit body then "_" ++ body else body
      .ok (n.escapeIfReserved (String.ofList start ++ body))

/-- The name of a parameter. -/
def parameterName (n : Names) (name : String) : Except Fault String :=
  match n.parameterNameMapping.find? name with
  | some mapped => .ok mapped
  | none => n.propertyName name

/-! ## Classes and interfaces -/

/-- The name of a class, and a warning if the name is reserved or starts with a digit and so takes
another start. -/
def className (n : Names) (name : String) : Except Fault (String × Option String) :=
  match n.modelNameMapping.find? name with
  | some mapped => .ok (mapped, none)
  | none =>
    let sanitized := n.sanitize (Text.replaceChar (n.unescape name) '.' "_")
    let decorated :=
      if n.modelNamePrefix == "" then sanitized else n.modelNamePrefix ++ "_" ++ sanitized
    let decorated :=
      if n.modelNameSuffix == "" then decorated else decorated ++ "_" ++ n.modelNameSuffix
    let camelized := Text.camelCase decorated
    let renamed := "Model" ++ camelized
    if camelized == "" then .error (.unnameable name)
    else if n.isReserved camelized then
      .ok (renamed,
        some s!"{camelized} (reserved word) cannot be used as model name, renamed to {renamed}")
    else if startsWithDigit camelized then
      .ok (renamed, some s!"{name} (model name starts with number) renamed to {renamed}")
    else .ok (camelized, none)

/-- The name of the interface of a tag. -/
def interfaceName (n : Names) (tag : String) : String :=
  let stripped := Text.trimStartWhere (fun c => c.isDigit || c == '_') (n.sanitize tag)
  let camelized := Text.camelCase stripped
  let base := if camelized == "" then "Default" else camelized
  let name := n.apiNamePrefix ++ base
  if Text.endsWith name n.apiNameSuffix then name else name ++ n.apiNameSuffix

/-- The name of a variable that holds the interface of a tag. -/
def interfaceVariable (n : Names) (tag : String) : String :=
  n.escapeIfReserved (Text.lowerFirst (n.interfaceName tag))

/-! ## Constants -/

/-- The names of values that consist of punctuation. -/
def symbolNames : List (String × String) :=
  [("$", "DOLLAR"), ("^", "CARET"), ("|", "PIPE"), ("=", "EQUAL"), ("*", "STAR"), ("-", "MINUS"),
    ("&", "AMPERSAND"), ("%", "PERCENT"), ("#", "HASH"), ("@", "AT"), ("!", "EXCLAMATION"),
    ("+", "PLUS"), (":", "COLON"), (";", "SEMICOLON"), (">", "GREATER_THAN"), ("<", "LESS_THAN"),
    (".", "PERIOD"), ("_", "UNDERSCORE"), ("?", "QUESTION_MARK"), (",", "COMMA"), ("'", "QUOTE"),
    ("\"", "DOUBLE_QUOTE"), ("/", "SLASH"), ("\\", "BACK_SLASH"), ("(", "LEFT_PARENTHESIS"),
    (")", "RIGHT_PARENTHESIS"), ("\x7b", "LEFT_CURLY_BRACKET"), ("\x7d", "RIGHT_CURLY_BRACKET"),
    ("[", "LEFT_SQUARE_BRACKET"), ("]", "RIGHT_SQUARE_BRACKET"), ("~", "TILDE"),
    ("\x60", "BACKTICK"), ("<=", "LESS_THAN_OR_EQUAL_TO"), (">=", "GREATER_THAN_OR_EQUAL_TO"),
    ("!=", "NOT_EQUAL"), ("<>", "NOT_EQUAL"), ("~=", "TILDE_EQUAL")]

/-- The data types whose constants are named for their number. -/
def numericTypes : List String :=
  ["Int", "Integer", "Byte", "Short", "Long", "Float", "Double", "BigDecimal", "BigInteger"]

/-- One underscore for each run of characters that belong to no word. -/
def underscoreGaps : List Char → List Char
  | [] => []
  | [c] => if Text.isWordCharacter c then [c] else ['_']
  | c :: d :: rest =>
    if Text.isWordCharacter c then c :: underscoreGaps (d :: rest)
    else if Text.isWordCharacter d then '_' :: underscoreGaps (d :: rest)
    else underscoreGaps (d :: rest)

/-- The name of the constant of an enumerated value; none if nothing of the value can stand in a
name. -/
def constantOf? (n : Names) (value dataType : String) : Option String :=
  match n.enumNameMapping.find? value, symbolNames.lookup value with
  | some mapped, _ => some mapped
  | none, some symbol => some symbol
  | none, none =>
    if value == "" then some "EMPTY"
    else if value == " " then some "SPACE"
    else if numericTypes.any (Text.equalsIgnoringCase · dataType) then
      let minus := Text.replaceChar ("NUMBER_" ++ value) '-' "MINUS_"
      some (Text.replaceChar (Text.replaceChar minus '+' "PLUS_") '.' "_DOT_")
    else
      let words := Text.shoutySnakeCase (String.ofList (underscoreGaps value.toList))
      if words.toList.all (· == '_') then none
      else (n.propertyName (if startsWithDigit words then "_" ++ words else words)).toOption

/-- The name of the constant of an enumerated value, if there is a value. -/
def constantName? (n : Names) (value : Option String) (dataType : String) : Option String :=
  value.bind fun v => n.constantOf? v dataType

/-! ## Accessors -/

/-- The name after `get` and `set`: a capital first, unless the name begins with underscores. -/
def capitalize (name : String) : String :=
  let cs := (Text.replaceChar name Dialect.Kotlin.wordMark "").toList
  let start := cs.takeWhile (· == '_')
  let rest := String.ofList (cs.dropWhile (· == '_'))
  if start.isEmpty then Text.upperFirst rest else String.ofList start ++ Text.lowerFirst rest

/-- The name of the accessor that reads. -/
def getter (name : String) : String := "get" ++ capitalize name

/-- The name of the accessor that writes. -/
def setter (name : String) : String := "set" ++ capitalize name

/-! ## Operations -/

/-- The name of an operation without one: the segments of its path and its method. -/
def operationId (path method : String) : String :=
  let segments := (Text.splitAt '/' path).filter (· != "")
  let bare (s : String) : String :=
    Text.trimEndWhere (· == '\x7d') (Text.trimStartWhere (· == '\x7b') s)
  let joined := Text.join "_" (segments.map bare ++ [Text.asciiLower method])
  Text.lowerCamelCase
    (String.ofList (joined.toList.map fun c => if c.isAlphanum then c else '_'))

end Names

end ApiLowering
