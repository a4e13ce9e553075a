import ApiLowering.Options.Setting
import ApiLowering.Yaml.Reader

/-!
# Options files

Options are kept in a YAML file beside the document.

## Main definitions

* `Options.ofYamlText?` — the options of a file.
* `Options.fileName`, `Options.fileTemplate` — the name of the file and what a new one says.
-/

namespace ApiLowering.Options

/-- The options of a text. -/
def ofYamlText? (s : String) : Option Options := (Yaml.readTree? s).bind read?

/-- The name of an options file. -/
def fileName : String := "mnoag.yaml"

/-- The text of a new options file. -/
def fileTemplate : String := "\n".intercalate [
  "# mnoag lowering options",
  "language: java            # java | kotlin",
  "target: server            # server | client",
  "testFramework: junit5     # junit5 | spock | kotest",
  "serializationLibrary: micronaut_serde_jackson   # jackson | micronaut_serde_jackson",
  "dateLibrary: ZONED_DATETIME                      # OFFSET_DATETIME | ZONED_DATETIME | " ++
    "LOCAL_DATETIME",
  "",
  "beanValidation: true",
  "reactive: true",
  "fluxForArrays: false",
  "generateHttpResponseAlways: false",
  "generateHttpResponseWhereRequired: true",
  "useOneOfInterfaces: true",
  "requiredPropertiesInConstructor: true",
  "plural: true",
  "lombok: false",
  "useAuth: false",
  "# dateTimePattern: \"yyyy-MM-dd'T'HH:mm:ss\"",
  "# generateOperationOnlyForFirstTag: true   # defaults to true for servers",
  "# generateSwaggerAnnotations: swagger2     # false | swagger1 | swagger2",
  "",
  "apiPackage: org.openapitools.api",
  "modelPackage: org.openapitools.model",
  "apiNameSuffix: Api",
  "",
  "typeMapping: \x7b\x7d",
  "importMapping: \x7b\x7d",
  "schemaMapping: \x7b\x7d",
  "inlineSchemaOption:",
  "  RESOLVE_INLINE_ENUMS: \"true\"",
  "",
  "parameterMappings: []",
  "  # - name: X-Page",
  "  #   location: HEADER",
  "  #   mappedType: io.micronaut.data.model.Pageable",
  "  #   mappedName: pageable",
  "responseBodyMappings: []",
  "  # - headerName: X-Total-Count",
  "  #   mappedBodyType: Page",
  "  #   isListWrapper: true",
  ""]

end ApiLowering.Options
