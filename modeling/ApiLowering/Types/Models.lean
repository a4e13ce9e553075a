import ApiLowering.Document.Lookup
import ApiLowering.Run.Session

/-!
# The schemas that become models

## Main definitions

* `Schema.needsModel` — whether a schema becomes a class of its own.
* `ModelTable` — the component schemas that become models, with their class names.
* `ModelTable.build` — the table of a document.
-/

namespace ApiLowering

/-- Whether a schema becomes a class of its own: it has properties, parts, a discriminator or
enumerated values. Others are types or names for types. -/
def Schema.needsModel (s : Schema) : Bool := s.isEnum || s.isObjectLike

/-- A component schema that becomes a model. -/
structure ModelEntry where
  classname : String
  isEnum : Bool
deriving Repr, DecidableEq, Inhabited

/-- The component schemas that become models. -/
abbrev ModelTable := Table ModelEntry

/-- The table of some components. Schemas with a mapping are types that exist already. -/
def ModelTable.build (setup : Setup) (c : Components) : Lowering ModelTable :=
  c.schemas.entries.foldlM (fun models (key, r) => do
    match r with
    | .ref _ => return models
    | .inline s =>
      if setup.options.schemaMapping.contains key || !s.needsModel then return models
      else
        let classname ← setup.className key
        return models.insert key { classname, isEnum := s.isEnum }) {}

end ApiLowering
