import ApiLowering.Canonical.Document
import ApiLowering.Document.Reader
import ApiLowering.Endpoints.Finished
import ApiLowering.Endpoints.Groups
import ApiLowering.Endpoints.Raw
import ApiLowering.Hoisting
import ApiLowering.Models.Inheritance

/-!
# Lowered documents

The whole way from a document to a program: the document takes its canonical form, inline schemas
are hoisted to components, components become models, operations become endpoints, and endpoints are
grouped into interfaces.

## Main definitions

* `Setup.lower` — the program of a document, as a step of a run.
* `Document.lowered` — the program of a document for a set of options, with the warnings of the run.
-/

namespace ApiLowering

/-- What the document says of itself. -/
def Document.programInfo (d : Document) : ProgramInfo where
  title := d.info.title
  description := d.info.description
  version := d.info.version

/-- The servers with their addresses. -/
def Document.programServers (d : Document) : List ProgramServer :=
  d.servers.map fun s => { url := s.resolvedUrl, description := s.description }

namespace Setup

variable (setup : Setup)

/-- The document in the form that is lowered. -/
def prepare (d : Document) : Lowering Document :=
  return (← setup.canonicalDocument d).hoisted (.ofOptions setup.options)

/-- The program of a document. -/
def lower (d : Document) : Lowering Program := do
  let d ← setup.prepare d
  let components := d.parts
  let models ← ModelTable.build setup components
  let forModels : Resolver := { setup, components, models, binaryAsFile := false }
  let forEndpoints : Resolver := { setup, components, models }
  let drafts ← forModels.lowerModels
  let raw ← forEndpoints.rawEndpoints d
  let finished ← setup.finishModels drafts
  let endpoints ← setup.finishEndpoints finished raw
  let groups ← setup.group endpoints
  return {
    info := d.programInfo
    servers := d.programServers
    models := finished
    endpoints
    groups
    importMapping := (← get).importMapping
    options := setup.options
    swagger := setup.swagger
    settings := setup.settings }

end Setup

/-- The program of a document for a set of options, with the warnings of the run. -/
def Document.lowered (d : Document) (o : Options) : Except Fault (Program × List String) := do
  let setup ← Setup.ofOptions o
  let (program, session) ← (setup.lower d).run (.start setup)
  return (program, session.warnings)

end ApiLowering
