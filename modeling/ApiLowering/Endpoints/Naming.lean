import ApiLowering.Document.Basic
import ApiLowering.Run.Session

/-!
# Names of methods

The method of an operation is named for the operation's own name, without the leading pieces that
the options remove, or for its path and its HTTP method.

## Main definitions

* `Options.withoutLeadingPieces` — the name of an operation without its leading pieces.
* `Names.methodName` — the name of a method, with a warning if a name had to be changed.
* `Setup.nickname` — the name of the method of an operation.
* `Content.nameSuffix` — what a media type adds to the name of a method.
-/

namespace ApiLowering

/-- The name of an operation without as many of its leading pieces as the options say. A name of too
few pieces stays whole. -/
def Options.withoutLeadingPieces (o : Options) (operationId : String) : String :=
  if o.removeOperationIdPrefix && o.removeOperationIdPrefixDelimiter != "" then
    (Text.dropPieces? o.removeOperationIdPrefixDelimiter o.removeOperationIdPrefixCount
      operationId).getD operationId
  else operationId

/-- A text with an underscore for each character that is no ASCII letter or digit. -/
def Names.asciiWord (s : String) : String :=
  String.ofList (s.toList.map fun c => if c.isAlphanum then c else '_')

/-- The name of a method, and a warning if the name is reserved or starts with a digit and so takes
another start. -/
def Names.methodName (n : Names) (raw : String) : String × Option String :=
  let name := Text.lowerCamelCase (asciiWord raw)
  if n.isReserved name || startsWithDigit name then
    let renamed := Text.lowerCamelCase ("call_" ++ name)
    (renamed, some s!"{name} cannot be used as method name, renamed to {renamed}")
  else (name, none)

/-- The name that an operation gives itself, unless it is blank. -/
def Operation.ownName? (op : Operation) : Option String :=
  op.operationId.filter fun id => Text.trimBlanks id != ""

namespace Setup

variable (setup : Setup)

/-- What the name of a method is made from; it is made up for an operation without a name. -/
def rawName (path : String) (method : HttpMethod) (op : Operation) : Lowering String := do
  match op.ownName? with
  | some id => return setup.options.withoutLeadingPieces id
  | none =>
    let verb := method.text
    let generated := Names.operationId path verb
    Lowering.warn s!"empty operationId for {verb} {path}, using {generated}"
    return generated

/-- The name of the method of an operation. -/
def nickname (path : String) (method : HttpMethod) (op : Operation) : Lowering String := do
  let (name, warning) := setup.names.methodName (← setup.rawName path method op)
  if let some message := warning then
    Lowering.warn message
  return name

end Setup

/-- What a media type adds to the name of a method: `VndApiJson` for `application/vnd.api+json`. -/
def Content.nameSuffix (mediaType : String) : String :=
  let base := String.ofList (mediaType.toList.takeWhile (· != ';'))
  Text.camelCase (Names.asciiWord (Text.afterLast '/' base))

end ApiLowering
