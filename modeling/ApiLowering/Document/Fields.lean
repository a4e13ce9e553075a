import ApiLowering.Document.Scalars
import ApiLowering.Table
import ApiLowering.Text.Basic

/-!
# Reading records

The pieces from which the readers of all parts of a document are built: leaves of one type, lists
and tables of one kind of thing, and the fields of a record.

## Main definitions

* `Tree.text?`, `Tree.bool?`, `Tree.nat?`, `Tree.table?`, `Tree.listOf?` — values of one type.
* `Fields` — the known fields of a record, each of which occurs once, and its other entries.
* `Fields.required?`, `Fields.optional?`, `Fields.defaulted?` — one field.
* `Extensions.vendor` — the unknown fields that are meant for programs.
-/

namespace ApiLowering

namespace Tree

/-! ## Leaves and collections -/

/-- A text. -/
def text? : Tree → Option String
  | .leaf l => l.text?
  | _ => none

/-- A boolean. -/
def bool? : Tree → Option Bool
  | .leaf l => l.bool?
  | _ => none

/-- A number. -/
def number? : Tree → Option Number
  | .leaf ⟨.number n, _⟩ => some n
  | _ => none

/-- A natural number below `2 ^ 64`. -/
def nat? : Tree → Option Nat
  | .leaf l => l.nat?
  | _ => none

/-- Whether the tree stands for a missing value; none if it only claims to. -/
def isNull? : Tree → Option Bool
  | .leaf l => l.isNull?
  | _ => some false

/-- The items of a list; an empty scalar is an empty list. -/
def items? : Tree → Option (List Tree)
  | .list xs _ => some xs
  | .marked t => items? t
  | .leaf l => if l.isBlank then some [] else none
  | .record _ => none

/-- The entries of a record; an empty scalar is an empty record. -/
def entries? : Tree → Option (List (Leaf × Tree))
  | .record es => some es
  | .marked t => entries? t
  | .leaf l => if l.isBlank then some [] else none
  | .list _ _ => none

/-- A list of one kind of thing. -/
def listOf? {α : Type} (read : Tree → Option α) (t : Tree) : Option (List α) :=
  t.items?.bind fun xs => xs.mapM read

/-- A table of one kind of thing; of several values under a key the last one stays. -/
def table? {α : Type} (read : Tree → Option α) (t : Tree) : Option (Table α) := do
  let es ← t.entries?
  let pairs ← es.mapM fun (k, v) => do return (← k.text?, ← read v)
  return Table.ofList pairs

/-- A list of texts. -/
def texts? (t : Tree) : Option (List String) := t.listOf? text?

end Tree

/-! ## Records -/

/-- A record whose fields have been told apart. -/
structure Fields where
  /-- The known fields. -/
  known : List (String × Tree)
  /-- The other entries, in order. -/
  other : List (Leaf × Tree)
  /-- Whether the fields were told apart by their positions. -/
  positional : Bool := false

namespace Fields

/-- Tells the fields apart by their names; none if a known one is repeated. -/
def ofEntries? (names : List String) : List (Leaf × Tree) → Option Fields
  | [] => some { known := [], other := [] }
  | (k, v) :: rest => do
    let fields ← ofEntries? names rest
    match k.text? with
    | some key =>
      if names.contains key then
        if fields.known.any (·.1 == key) then none
        else return { fields with known := (key, v) :: fields.known }
      else return { fields with other := (k, v) :: fields.other }
    | none => return { fields with other := (k, v) :: fields.other }

/-- The name of the field that a key stands for: the key itself, or the name at that position if it
is a number. No other key stands for one. -/
def nameOf? (names : List String) (key : Leaf) : Option String :=
  match key.text?, key.value with
  | some name, _ => some name
  | none, .number n => n.toNat?.map fun i => names.getD i ""
  | none, _ => none

/-- The fields of a record; its other entries are ignored, but their keys have to be names. -/
def ofRecord? (names : List String) (t : Tree) : Option Fields := do
  let es ← (← t.entries?).mapM fun (k, v) => do return (Leaf.ofText (← nameOf? names k), v)
  ofEntries? names es

/-- The fields of a list, which are in the order of their names. -/
def ofPositions? (names : List String) (xs : List Tree) : Option Fields :=
  if xs.length ≤ names.length then some ⟨names.zip xs, [], true⟩ else none

/-- The fields of a record, or of a list that stands for one. -/
def closed? (names : List String) : Tree → Option Fields
  | .list xs true => ofPositions? names xs
  | t => ofRecord? names t

/-- The same where any field may be missing. -/
def lenient? (names : List String) (t : Tree) : Option Fields :=
  (closed? names t).map fun f => { f with positional := false }

/-- The fields of a record whose other entries are kept. -/
def open? (names : List String) (t : Tree) : Option Fields := do
  ofEntries? names (← t.entries?)

/-- The tree of a field. -/
def get? (f : Fields) (name : String) : Option Tree := f.known.lookup name

/-- A field that has to be there. -/
def required? {α : Type} (f : Fields) (name : String) (read : Tree → Option α) : Option α :=
  (f.get? name).bind read

/-- A field that may be null, and that may be missing unless the fields go by their positions. The
outer option is the outcome of reading. -/
def optional? {α : Type} (f : Fields) (name : String) (read : Tree → Option α) :
    Option (Option α) :=
  match f.get? name with
  | none => if f.positional then none else some none
  | some t => do if ← t.isNull? then return none else return some (← read t)

/-- A field that may be missing, but not null. -/
def defaulted? {α : Type} (f : Fields) (name : String) (read : Tree → Option α) (fallback : α) :
    Option α :=
  match f.get? name with
  | none => some fallback
  | some t => read t

/-- The other entries as free-form values. -/
def extensions? (f : Fields) : Option (Table Json) := do
  let pairs ← f.other.mapM fun (k, v) => do return (← k.text?, ← (← v.settle?).toJson?)
  return Table.ofList pairs

end Fields

/-! ## Extensions -/

/-- The unknown fields of a record that are meant for programs. -/
def Extensions.vendor (extensions : Table Json) : Table Json :=
  extensions.filter fun key _ => Text.startsWith key "x-"

/-! ## Writing records -/

namespace Json

/-- A member that is left out if there is no value. -/
def member? {α : Type} (name : String) (value : Option α) (write : α → Json) :
    List (String × Json) :=
  match value with
  | some v => [(name, write v)]
  | none => []

/-- An array as a member that is left out if there is no item. -/
def arrayMember (name : String) (items : List Json) : List (String × Json) :=
  if items.isEmpty then [] else [(name, .array items)]

/-- A member that is left out if the list is empty. -/
def listMember {α : Type} (name : String) (values : List α) (write : α → Json) :
    List (String × Json) :=
  arrayMember name (values.map write)

/-- A table as an object. -/
def ofTable {α : Type} (t : Table α) (write : α → Json) : Json :=
  object (t.entries.map fun e => (e.1, write e.2))

/-- A member that is left out if the table is empty. -/
def tableMember {α : Type} (name : String) (t : Table α) (write : α → Json) :
    List (String × Json) :=
  if t.isEmpty then [] else [(name, ofTable t write)]

end Json

end ApiLowering
