import ApiLowering.Document.Content
import ApiLowering.Program.Endpoint
import ApiLowering.Run.Setup

/-!
# Normalized endpoints

The first stage of an endpoint tidies its texts and media types, tells bodies and forms apart by the
media type of the request, and takes the implicit headers out of the arguments.

## Main definitions

* `Endpoint.projected` — the lists and counts that follow from the arguments.
* `Endpoint.withFormArguments` — bodies and forms by the media type of the request.
* `Setup.withoutImplicitHeaders` — the arguments without those that are implicit.
* `Setup.normalizeEndpoint` — the normalized endpoint.

## Main results

* `Endpoint.givenParams_projected`, `Endpoint.swaggerParams_projected` — two lists are views of
  the arguments.
-/

namespace ApiLowering

/-! ## Views of the arguments -/

namespace Argument

/-- The argument with what is said of the number of plain arguments beside it. -/
def counted (plain : Nat) (a : Argument) : Argument :=
  { a with facets.hasNotBodyParam := plain > 0, facets.hasMultipleParams := plain > 1 }

end Argument

namespace Endpoint

/-- The number of arguments that are neither a body nor fields of a form. -/
def plainCount (e : Endpoint) : Nat := (e.allParams.filter (·.isPlain)).length

/-- The endpoint with the lists and counts that follow from its arguments. -/
def projected (e : Endpoint) : Endpoint :=
  let plain := e.plainCount
  let allParams := e.allParams.map (·.counted plain)
  let counted : Endpoint := { e with
    allParams
    swaggerParams := allParams.filter (·.isPlain)
    givenParams := allParams
    facets.hasNotBodyParam := plain > 0
    facets.hasMultipleParams := plain > 1 }
  counted.sortArguments

/-- The given arguments are all of them. -/
theorem givenParams_projected (e : Endpoint) :
    e.projected.givenParams = e.projected.allParams := rfl

/-- The arguments that annotations describe are the plain ones. -/
theorem swaggerParams_projected (e : Endpoint) :
    e.projected.swaggerParams = e.projected.allParams.filter (·.isPlain) := rfl

/-! ## Texts and media types -/

/-- A text without white space around it, unless nothing is left. -/
def tidy (text : Option String) : Option String := (text.map Text.trimBlanks).filter (· != "")

/-- Whether there is nothing but JSON. -/
def isDefaultOnly (mediaTypes : List String) : Bool :=
  mediaTypes.isEmpty || mediaTypes == [Content.json]

/-- The media type that is meant where any may be. -/
def concrete (mediaType : String) : String :=
  if mediaType == Content.any then Content.json else mediaType

/-- Whether requests of a method may have a body. -/
def allowsBody (method : String) : Bool :=
  ["PUT", "POST", "PATCH", "OPTIONS", "DELETE"].contains method

/-- The endpoint with its texts trimmed and without the media type that means any. -/
def tidied (e : Endpoint) : Endpoint :=
  let consumes := e.consumes.filter (· != Content.any)
  let produces := e.produces.filter (· != Content.any)
  { e with
    summary := tidy e.summary
    description := tidy e.description
    consumes, produces
    facets.methodAllowsBody := allowsBody e.httpMethod
    facets.contentType := e.facets.contentType.map concrete
    facets.onlyDefaultConsumeOrEmpty := isDefaultOnly consumes
    facets.onlyDefaultProduceOrEmpty := isDefaultOnly produces }

/-! ## Bodies and forms -/

/-- A body as a field of a form. -/
def asFormField (a : Argument) : Argument :=
  if a.isBody then { a with isBody := false, isForm := true } else a

/-- A field of a form as a part of a body. -/
def asPart (a : Argument) : Argument :=
  if a.isForm then { a with isForm := false, isBody := true, isPart := true } else a

/-- The endpoint with bodies as fields of a form, or fields as parts of a body, as the media type of
the request has it. -/
def withFormArguments (e : Endpoint) : Endpoint :=
  if e.facets.contentType == some Content.urlEncoded then
    { e with allParams := e.allParams.map asFormField }
  else if e.facets.contentType == some Content.multipart then
    { e with allParams := e.allParams.map asPart }
  else e

end Endpoint

/-! ## Implicit headers -/

namespace Setup

variable (setup : Setup)

/-- Whether an argument is a header that is implicit. -/
def hidesArgument (a : Argument) : Bool :=
  a.isHeader && (setup.options.implicitHeaders || setup.isImplicitHeader a.baseName)

/-- The endpoint with its implicit headers apart from its arguments. -/
def withoutImplicitHeaders (e : Endpoint) : Endpoint :=
  { e with
    allParams := e.allParams.filter (!setup.hidesArgument ·)
    implicitHeadersParams := e.allParams.filter setup.hidesArgument }

/-- The normalized endpoint. -/
def normalizeEndpoint (e : Endpoint) : Except Fault Endpoint := do
  let e ← e.advance .raw .normalized
  return (setup.withoutImplicitHeaders e.tidied.withFormArguments).projected

end Setup

end ApiLowering
