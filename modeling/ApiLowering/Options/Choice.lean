import ApiLowering.Fault
import ApiLowering.Text.Basic

/-!
# Options with named values

An option whose values have names accepts some of them in several spellings. The first spelling is
the one that is written.

## Main definitions

* `Choice` — the option's name and the spellings of its values.
* `Choice.parse` — the value of a spelling.
* `Language`, `Target`, `TestFramework`, `Serialization`, `DateTimeFormat`, `SwaggerAnnotations` —
  the values.
-/

namespace ApiLowering

/-- An option with named values. -/
structure Choice (α : Type) where
  /-- The name of the option. -/
  option : String
  /-- The spellings of the values; the first one of a value is the one that is written. -/
  spellings : List (String × α)

namespace Choice

variable {α : Type}

/-- The value of an exact spelling. -/
def ofText? (c : Choice α) (s : String) : Option α := c.spellings.lookup s

/-- The value of a spelling between blanks. -/
def parse (c : Choice α) (s : String) : Except Fault α :=
  let trimmed := Text.trimBlanks s
  match c.ofText? trimmed with
  | some v => .ok v
  | none => .error (.configuration c.option trimmed)

/-- The spelling of a value. -/
def text [BEq α] (c : Choice α) (v : α) : String :=
  ((c.spellings.find? (·.2 == v)).map Prod.fst).getD ""

end Choice

/-! ## The values -/

/-- The language of the generated program. -/
inductive Language where
  | java
  | kotlin
deriving Repr, DecidableEq, Inhabited

/-- Which side of the API is generated. -/
inductive Target where
  | server
  | client
deriving Repr, DecidableEq, Inhabited

/-- The framework of the generated tests. -/
inductive TestFramework where
  | junit5
  | spock
  | kotest
deriving Repr, DecidableEq, Inhabited

/-- The library that writes and reads bodies. -/
inductive Serialization where
  | jackson
  | serdeJackson
deriving Repr, DecidableEq, Inhabited

/-- The type of points in time. -/
inductive DateTimeFormat where
  | offset
  | zoned
  | localTime
deriving Repr, DecidableEq, Inhabited

/-- Which annotations describe the API. -/
inductive SwaggerAnnotations where
  | off
  | swagger1
  | swagger2
deriving Repr, DecidableEq, Inhabited

namespace Language

/-- The spellings of a language. -/
def choice : Choice Language :=
  ⟨"language", [("java", .java), ("JAVA", .java), ("kotlin", .kotlin), ("KOTLIN", .kotlin)]⟩

end Language

namespace Target

/-- The spellings of a target. -/
def choice : Choice Target :=
  ⟨"target", [("server", .server), ("SERVER", .server), ("client", .client), ("CLIENT", .client)]⟩

end Target

namespace TestFramework

/-- The spellings of a test framework. -/
def choice : Choice TestFramework :=
  ⟨"testFramework", [("junit5", .junit5), ("junit", .junit5), ("JUNIT5", .junit5),
    ("spock", .spock), ("SPOCK", .spock), ("kotest", .kotest), ("KOTEST", .kotest)]⟩

end TestFramework

namespace Serialization

/-- The spellings of a serialization library. -/
def choice : Choice Serialization :=
  ⟨"serializationLibrary", [("jackson", .jackson), ("JACKSON", .jackson),
    ("micronaut_serde_jackson", .serdeJackson), ("MICRONAUT_SERDE_JACKSON", .serdeJackson)]⟩

end Serialization

namespace DateTimeFormat

/-- The spellings of a date-time format. -/
def choice : Choice DateTimeFormat :=
  ⟨"dateTimeFormat", [("OFFSET_DATETIME", .offset), ("offset_datetime", .offset),
    ("ZONED_DATETIME", .zoned), ("zoned_datetime", .zoned),
    ("LOCAL_DATETIME", .localTime), ("local_datetime", .localTime)]⟩

/-- The simple name of the type. -/
def typeName : DateTimeFormat → String
  | offset => "OffsetDateTime"
  | zoned => "ZonedDateTime"
  | localTime => "LocalDateTime"

end DateTimeFormat

namespace SwaggerAnnotations

/-- The spellings of a kind of annotations. -/
def choice : Choice SwaggerAnnotations :=
  ⟨"generateSwaggerAnnotations", [("false", .off), ("swagger1", .swagger1),
    ("swagger2", .swagger2), ("true", .swagger2)]⟩

end SwaggerAnnotations

end ApiLowering
