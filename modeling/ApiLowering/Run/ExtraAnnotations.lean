import ApiLowering.Json.Writer
import ApiLowering.Program.Property
import ApiLowering.Run.Session

/-!
# Annotations of the caller's choice

Extensions of the document carry annotations for the generated program: one text, or a list of them.

## Main definitions

* `ExtraAnnotations.ofJson?` — the annotations that a value stands for.
* `Lowering.takeAnnotations` — the annotations under a key, which are taken out of the extensions.
* `Property.refersToAny` — whether a property is of one of some classes.

## Main results

* `ExtraAnnotations.spell_startsWith` — an annotation begins with its mark.
-/

namespace ApiLowering

namespace ExtraAnnotations

/-- The key of annotations of classes. -/
def classKey : String := "x-annotations-class"

/-- The key of annotations of fields. -/
def fieldKey : String := "x-annotations-field"

/-- The key of annotations of setters. -/
def setterKey : String := "x-annotations-setter"

/-- The key of annotations of operations. -/
def operationKey : String := "x-annotations-operation"

/-- An annotation with its mark in front, unless the text is blank. -/
def spell (text : String) : Option String :=
  let text := Text.trimBlanks text
  if text == "" then none
  else if Text.startsWith text "@" then some text
  else some ("@" ++ text)

/-- An annotation begins with its mark. -/
theorem spell_startsWith {text spelled : String} (h : spell text = some spelled) :
    Text.startsWith spelled "@" := by
  simp only [spell] at h
  split at h
  · cases h
  · split at h
    · rename_i hs
      cases h
      exact hs
    · cases h
      simp [Text.startsWith, Text.dropStart?]

/-- The annotations that a value stands for; none for a value that is neither a text nor a list. -/
def ofJson? : Json → Option (List String)
  | .string text => some (spell text).toList
  | .array items => some ((items.filterMap Json.string?).filterMap spell)
  | _ => none

/-- The warning that a value stands for no annotations. -/
def complaint (key : String) (j : Json) : String :=
  "ignoring " ++ key ++ ": expected a string or a list, got " ++ j.render

end ExtraAnnotations

/-- The annotations under a key, and the extensions without it. Values that stand for none give a
warning. -/
def Lowering.takeAnnotations (key : String) (extensions : Table Json) :
    Lowering (List String × Table Json) := do
  match extensions.find? key with
  | none => return ([], extensions)
  | some j =>
    let rest := extensions.erase key
    match ExtraAnnotations.ofJson? j with
    | some annotations => return (annotations, rest)
    | none => do
      Lowering.warn (ExtraAnnotations.complaint key j)
      return ([], rest)

/-- Whether a property, or what it contains at its bottom, is a model of one of some classes. -/
def Property.refersToAny (p : Property) (classes : List String) : Bool :=
  p.innermost.type.isModel && classes.contains p.innermost.type.dataType

end ApiLowering
