import ApiLowering.Names
import ApiLowering.Program.Facets
import ApiLowering.Run.Settings

/-!
# The setup of a run

What the options determine once for all passes.

## Main definitions

* `Setup` — options with what follows from them.
* `Setup.ofOptions` — the setup of options, or why they do not fit together.
* `TypeName.split?` — the simple name and the package of a qualified type.
* `Setup.needsImport` — whether a type has to be imported.
-/

namespace ApiLowering

/-! ## Qualified types -/

namespace TypeName

/-- The simple name and the package of a qualified type: the simple name begins with the first
capital, which follows a point. -/
def split? (typeName : String) : Option (String × String) :=
  let package := typeName.toList.takeWhile (!·.isUpper)
  let simple := typeName.toList.dropWhile (!·.isUpper)
  if simple.isEmpty || package.getLast? != some '.' then none
  else some (String.ofList simple, String.ofList (Text.dropTrailing (· == '.') package))

/-- The simple name of a type. -/
def simple (typeName : String) : String :=
  match split? typeName with
  | some (name, _) => name
  | none => typeName

end TypeName

/-! ## The setup -/

/-- Options with what follows from them. -/
structure Setup where
  options : Options
  dialect : Dialect
  names : Names
  /-- The type of every word: the dialect's, then the caller's. -/
  typeMapping : Table String
  /-- The packages of types: the dialect's, the caller's, and those of mapped schemas. -/
  importMapping : Table String
  /-- The header parameters that are implicit. -/
  implicitHeaders : Option Pattern
  settings : Settings
  swagger : SwaggerFlags

namespace Setup

/-- Which annotations describe the API. -/
def swaggerFlags : SwaggerAnnotations → SwaggerFlags
  | .off => {}
  | .swagger1 => { annotated := true, version1 := true }
  | .swagger2 => { annotated := true, version2 := true }

/-- The packages of types before a run. -/
def initialImports (o : Options) : Table String :=
  let mapped := o.language.dialect.importMapping.insertAll o.importMapping.entries
  o.schemaMapping.values.foldl
    (fun imports qualified =>
      match TypeName.split? qualified with
      | some (simple, _) => imports.insertNew simple qualified
      | none => imports) mapped

/-- The setup of options that are in canonical form. -/
def ofCanonical (o : Options) : Setup where
  options := o
  dialect := o.language.dialect
  names := .ofOptions o
  typeMapping := (o.language.dialect.typeMapping o).insertAll o.typeMapping.entries
  importMapping := initialImports o
  implicitHeaders := o.implicitHeadersRegex.bind Pattern.read?
  settings := .ofSwitches o.openapiNormalizer
  swagger := swaggerFlags o.swaggerAnnotations

/-- The setup of options. -/
def ofOptions (o : Options) : Except Fault Setup := do
  o.validate
  return ofCanonical o.canonical

variable (setup : Setup)

/-- Whether a server is generated. -/
def isServer : Bool := setup.options.isServer

/-- The type of a word. -/
def mappedType (key : String) : Except Fault String :=
  match setup.typeMapping.find? key with
  | some t => .ok t
  | none => .error (.untyped key "no type mapping")

/-- Whether a simple type has to be imported. -/
def needsImport (typeName : String) : Bool :=
  typeName != "" && !typeName.toList.any (fun c => c == '<' || c == '[' || c == ' ') &&
    !setup.dialect.isBuiltin typeName

/-- Whether a header parameter is implicit by its name. -/
def isImplicitHeader (name : String) : Bool :=
  setup.implicitHeaders.any fun p => p.occursIn name

end Setup

end ApiLowering
