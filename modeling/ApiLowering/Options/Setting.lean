import ApiLowering.Options.Basic

/-!
# Setting options by name

Options are set one by one from texts, and read and written as records. All three go by the tables
of the options of one kind.

## Main definitions

* `Options.flags`, `Options.texts`, `Options.optionalTexts`, `Options.tables`, `Options.lists` — the
  options of one kind, with their names.
* `Options.set` — sets an option from a text.
* `Options.read?`, `Options.toJson` — options as a record.
-/

namespace ApiLowering.Options

/-! ## Options of one kind -/

/-- An option by its name. -/
structure Entry (α : Type) where
  /-- The name. -/
  name : String
  /-- The value. -/
  get : Options → α
  /-- Replaces the value. -/
  put : Options → α → Options

/-- The switches. -/
def flags : List (Entry Bool) :=
  [⟨"beanValidation", beanValidation, fun o v => { o with beanValidation := v }⟩,
    ⟨"optional", optional, fun o v => { o with optional := v }⟩,
    ⟨"reactive", reactive, fun o v => { o with reactive := v }⟩,
    ⟨"fluxForArrays", fluxForArrays, fun o v => { o with fluxForArrays := v }⟩,
    ⟨"generateHttpResponseAlways", generateHttpResponseAlways,
      fun o v => { o with generateHttpResponseAlways := v }⟩,
    ⟨"generateHttpResponseWhereRequired", generateHttpResponseWhereRequired,
      fun o v => { o with generateHttpResponseWhereRequired := v }⟩,
    ⟨"useOneOfInterfaces", useOneOfInterfaces, fun o v => { o with useOneOfInterfaces := v }⟩,
    ⟨"useEnumCaseInsensitive", useEnumCaseInsensitive,
      fun o v => { o with useEnumCaseInsensitive := v }⟩,
    ⟨"requiredPropertiesInConstructor", requiredPropertiesInConstructor,
      fun o v => { o with requiredPropertiesInConstructor := v }⟩,
    ⟨"implicitHeaders", implicitHeaders, fun o v => { o with implicitHeaders := v }⟩,
    ⟨"useJakartaEe", useJakartaEe, fun o v => { o with useJakartaEe := v }⟩,
    ⟨"sortParamsByRequiredFlag", sortParamsByRequiredFlag,
      fun o v => { o with sortParamsByRequiredFlag := v }⟩,
    ⟨"skipOperationExample", skipOperationExample,
      fun o v => { o with skipOperationExample := v }⟩,
    ⟨"skipSortingOperations", skipSortingOperations,
      fun o v => { o with skipSortingOperations := v }⟩,
    ⟨"ensureUniqueParams", ensureUniqueParams, fun o v => { o with ensureUniqueParams := v }⟩,
    ⟨"allowUnicodeIdentifiers", allowUnicodeIdentifiers,
      fun o v => { o with allowUnicodeIdentifiers := v }⟩,
    ⟨"prependFormOrBodyParameters", prependFormOrBodyParameters,
      fun o v => { o with prependFormOrBodyParameters := v }⟩,
    ⟨"generatedAnnotation", generatedAnnotation, fun o v => { o with generatedAnnotation := v }⟩,
    ⟨"plural", plural, fun o v => { o with plural := v }⟩,
    ⟨"visitable", visitable, fun o v => { o with visitable := v }⟩,
    ⟨"containerDefaultToNull", containerDefaultToNull,
      fun o v => { o with containerDefaultToNull := v }⟩,
    ⟨"removeOperationIdPrefix", removeOperationIdPrefix,
      fun o v => { o with removeOperationIdPrefix := v }⟩,
    ⟨"lombok", lombok, fun o v => { o with lombok := v }⟩,
    ⟨"useAuth", useAuth, fun o v => { o with useAuth := v }⟩]

/-- The texts. -/
def texts : List (Entry String) :=
  [⟨"apiPackage", apiPackage, fun o v => { o with apiPackage := v }⟩,
    ⟨"modelPackage", modelPackage, fun o v => { o with modelPackage := v }⟩,
    ⟨"invokerPackage", invokerPackage, fun o v => { o with invokerPackage := v }⟩,
    ⟨"artifactId", artifactId, fun o v => { o with artifactId := v }⟩,
    ⟨"applicationName", applicationName, fun o v => { o with applicationName := v }⟩,
    ⟨"apiNamePrefix", apiNamePrefix, fun o v => { o with apiNamePrefix := v }⟩,
    ⟨"apiNameSuffix", apiNameSuffix, fun o v => { o with apiNameSuffix := v }⟩,
    ⟨"modelNamePrefix", modelNamePrefix, fun o v => { o with modelNamePrefix := v }⟩,
    ⟨"modelNameSuffix", modelNameSuffix, fun o v => { o with modelNameSuffix := v }⟩,
    ⟨"removeOperationIdPrefixDelimiter", removeOperationIdPrefixDelimiter,
      fun o v => { o with removeOperationIdPrefixDelimiter := v }⟩]

/-- The texts that may be missing. -/
def optionalTexts : List (Entry (Option String)) :=
  [⟨"title", title, fun o v => { o with title := v }⟩,
    ⟨"dateFormat", dateFormat, fun o v => { o with dateFormat := v }⟩,
    ⟨"dateTimePattern", dateTimePattern, fun o v => { o with dateTimePattern := v }⟩,
    ⟨"implicitHeadersRegex", implicitHeadersRegex,
      fun o v => { o with implicitHeadersRegex := v }⟩]

/-- The tables of texts. -/
def tables : List (Entry (Table String)) :=
  [⟨"schemaMapping", schemaMapping, fun o v => { o with schemaMapping := v }⟩,
    ⟨"importMapping", importMapping, fun o v => { o with importMapping := v }⟩,
    ⟨"nameMapping", nameMapping, fun o v => { o with nameMapping := v }⟩,
    ⟨"parameterNameMapping", parameterNameMapping,
      fun o v => { o with parameterNameMapping := v }⟩,
    ⟨"enumNameMapping", enumNameMapping, fun o v => { o with enumNameMapping := v }⟩,
    ⟨"modelNameMapping", modelNameMapping, fun o v => { o with modelNameMapping := v }⟩,
    ⟨"typeMapping", typeMapping, fun o v => { o with typeMapping := v }⟩,
    ⟨"inlineSchemaNameMapping", inlineSchemaNameMapping,
      fun o v => { o with inlineSchemaNameMapping := v }⟩,
    ⟨"inlineSchemaOption", inlineSchemaOption, fun o v => { o with inlineSchemaOption := v }⟩,
    ⟨"openapiNormalizer", openapiNormalizer, fun o v => { o with openapiNormalizer := v }⟩]

/-- The lists of texts. -/
def lists : List (Entry (List String)) :=
  [⟨"reservedWordsAugment", reservedWordsAugment,
      fun o v => { o with reservedWordsAugment := v }⟩,
    ⟨"additionalModelTypeAnnotations", additionalModelTypeAnnotations,
      fun o v => { o with additionalModelTypeAnnotations := v }⟩,
    ⟨"additionalEnumTypeAnnotations", additionalEnumTypeAnnotations,
      fun o v => { o with additionalEnumTypeAnnotations := v }⟩,
    ⟨"additionalOneOfTypeAnnotations", additionalOneOfTypeAnnotations,
      fun o v => { o with additionalOneOfTypeAnnotations := v }⟩]

/-! ## Setting -/

/-- The switch that a text names. -/
def parseFlag (key value : String) : Except Fault Bool :=
  match Text.asciiLower (Text.trimBlanks value) with
  | "true" => .ok true
  | "false" => .ok false
  | _ => .error (.configuration key value)

/-- The count that a text names: digits after a plus sign or none. -/
def parseCount (key value : String) : Except Fault Nat :=
  let ds : List Char := match value.toList with
    | '+' :: rest => rest
    | cs => cs
  let n := Number.digitsValue ds
  if ds.isEmpty || !ds.all Char.isDigit || Nat.pow 2 64 ≤ n then
    .error (.configuration key value)
  else .ok n

/-- The switch of a name. Two switches have a second name. -/
def flag? (key : String) : Option (Entry Bool) :=
  let key := match key with
    | "useBeanValidation" => "beanValidation"
    | "useOptional" => "optional"
    | k => k
  flags.find? (·.name == key)

/-- What setting an option results in: new options, and a warning if the option is unknown. -/
abbrev SetResult := Except Fault (Options × Option String)

/-- Sets an option from a text. -/
def set (o : Options) (key value : String) : SetResult :=
  let ok (o : Options) : SetResult := .ok (o, none)
  match key with
  | "language" => do ok { o with language := ← Language.choice.parse value }
  | "target" => do ok { o with target := ← Target.choice.parse value }
  | "testFramework" => do ok { o with testFramework := ← TestFramework.choice.parse value }
  | "test" => do ok { o with testFramework := ← TestFramework.choice.parse value }
  | "serializationLibrary" => do
    ok { o with serializationLibrary := ← Serialization.choice.parse value }
  | "dateLibrary" => do ok { o with dateTimeFormat := ← DateTimeFormat.choice.parse value }
  | "dateTimeFormat" =>
    match DateTimeFormat.choice.parse value with
    | .ok v => ok { o with dateTimeFormat := v }
    | .error _ => ok { o with dateTimePattern := some value }
  | "generateSwaggerAnnotations" => do
    ok { o with generateSwaggerAnnotations := some (← SwaggerAnnotations.choice.parse value) }
  | "generateOperationOnlyForFirstTag" => do
    ok { o with generateOperationOnlyForFirstTag := some (← parseFlag key value) }
  | "removeOperationIdPrefixCount" => do
    ok { o with removeOperationIdPrefixCount := ← parseCount key value }
  | key =>
    match flag? key, texts.find? (·.name == key), optionalTexts.find? (·.name == key) with
    | some f, _, _ => do ok (f.put o (← parseFlag key value))
    | none, some t, _ => ok (t.put o value)
    | none, none, some t => ok (t.put o (some value))
    | none, none, none => .ok (o, some s!"ignoring unknown option '{key}'")

/-! ## Records -/

/-- Reads the options of one kind into a record of options. -/
def readEntries? {α : Type} (f : Fields) (read : Tree → Option α) (es : List (Entry α))
    (o : Options) : Option Options :=
  es.foldlM (fun o e => do return e.put o (← f.defaulted? e.name read (e.get o))) o

/-- The names of the other options. -/
def otherNames : List String :=
  ["language", "target", "generateSwaggerAnnotations", "generateOperationOnlyForFirstTag",
    "testFramework", "serializationLibrary", "dateTimeFormat", "dateLibrary",
    "removeOperationIdPrefixCount", "parameterMappings", "responseBodyMappings"]

/-- The names of all options. -/
def names : List String :=
  flags.map (·.name) ++ texts.map (·.name) ++ optionalTexts.map (·.name) ++ tables.map (·.name) ++
    lists.map (·.name) ++ otherNames

/-- Reads options: what is missing has its default value, and unknown entries are ignored. -/
def read? (t : Tree) : Option Options := do
  let f ← Fields.ofRecord? names t
  let o : Options := {}
  let choice {α : Type} (c : Choice α) := readChoice? c.ofText? []
  let o ← readEntries? f Tree.bool? flags o
  let o ← readEntries? f Tree.text? texts o
  let o ← optionalTexts.foldlM
    (fun o e => do return e.put o (← f.optional? e.name Tree.text?)) o
  let o ← readEntries? f (Tree.table? Tree.text?) tables o
  let o ← readEntries? f Tree.texts? lists o
  let format ← match f.get? "dateTimeFormat", f.get? "dateLibrary" with
    | some _, some _ => none
    | some t, none => choice DateTimeFormat.choice t
    | none, some t => choice DateTimeFormat.choice t
    | none, none => some o.dateTimeFormat
  return { o with
    language := ← f.defaulted? "language" (choice Language.choice) o.language
    target := ← f.defaulted? "target" (choice Target.choice) o.target
    generateSwaggerAnnotations :=
      ← f.optional? "generateSwaggerAnnotations" (choice SwaggerAnnotations.choice)
    generateOperationOnlyForFirstTag :=
      ← f.optional? "generateOperationOnlyForFirstTag" Tree.bool?
    testFramework := ← f.defaulted? "testFramework" (choice TestFramework.choice) o.testFramework
    serializationLibrary :=
      ← f.defaulted? "serializationLibrary" (choice Serialization.choice) o.serializationLibrary
    dateTimeFormat := format
    removeOperationIdPrefixCount :=
      ← f.defaulted? "removeOperationIdPrefixCount" Tree.nat? o.removeOperationIdPrefixCount
    parameterMappings :=
      ← f.defaulted? "parameterMappings" (Tree.listOf? ParameterMapping.read?) []
    responseBodyMappings :=
      ← f.defaulted? "responseBodyMappings" (Tree.listOf? ResponseBodyMapping.read?) [] }

/-- The members of all options. -/
def members (o : Options) : List (String × Json) :=
  flags.map (fun e => (e.name, .bool (e.get o))) ++
  texts.map (fun e => (e.name, .string (e.get o))) ++
  optionalTexts.map (fun e => (e.name, .ofString? (e.get o))) ++
  tables.map (fun e => (e.name, Json.ofTable (e.get o) .string)) ++
  lists.map (fun e => (e.name, .ofStrings (e.get o))) ++
  [("language", .string (Language.choice.text o.language)),
    ("target", .string (Target.choice.text o.target)),
    ("generateSwaggerAnnotations",
      .ofString? (o.generateSwaggerAnnotations.map SwaggerAnnotations.choice.text)),
    ("generateOperationOnlyForFirstTag",
      (o.generateOperationOnlyForFirstTag.map Json.bool).getD .null),
    ("testFramework", .string (TestFramework.choice.text o.testFramework)),
    ("serializationLibrary", .string (Serialization.choice.text o.serializationLibrary)),
    ("dateTimeFormat", .string (DateTimeFormat.choice.text o.dateTimeFormat)),
    ("removeOperationIdPrefixCount", .ofNat o.removeOperationIdPrefixCount),
    ("parameterMappings", .array (o.parameterMappings.map ParameterMapping.toJson)),
    ("responseBodyMappings", .array (o.responseBodyMappings.map ResponseBodyMapping.toJson))]

/-- Options as a value. -/
def toJson (o : Options) : Json := .object o.members

end ApiLowering.Options
