import ApiLowering.Dialect.Basic
import ApiLowering.Program.Argument

/-!
# Examples

Expressions that stand for values in generated tests and documentation.

## Main definitions

* `ExampleSource` — what an example is made from.
* `Examples` — what is known of models when examples are made.
* `Examples.expression` — the example, in the language of the program or in that of scripts.
-/

namespace ApiLowering

/-- What an example is made from. -/
structure ExampleSource where
  dataType : String
  defaultValue : Option String := none
  sample : Option String := none
  isModel : Bool := false
  /-- The values that are enumerated. -/
  allowableValues : List String := []
  itemsType : Option String := none
  itemsSample : Option String := none
  /-- Whether class names are written with their packages. -/
  isProperty : Bool := false
deriving Repr, Inhabited

namespace ExampleSource

/-- The source of the example of a property. -/
def ofProperty (p : Property) : ExampleSource where
  dataType := p.type.dataType
  defaultValue := p.defaultValue
  sample := p.sample
  isModel := p.type.isModel
  allowableValues := p.enumConstants.map (·.rawValue)
  itemsType := p.items.map (·.type.dataType)
  itemsSample := p.items.bind (·.defaultValue)
  isProperty := true

/-- The source of the example of an argument. -/
def ofArgument (a : Argument) : ExampleSource where
  dataType := a.type.dataType
  defaultValue := a.defaultValue
  sample := a.sample
  isModel := a.type.isModel
  allowableValues := a.allowableValues
  itemsType := a.items.map (·.type.dataType)
  itemsSample := a.items.bind (·.defaultValue)

/-- The value that is shown: the default, or else the sample. -/
def shown (e : ExampleSource) : Option String := e.defaultValue <|> e.sample

end ExampleSource

/-- What is known of models when examples are made. -/
structure Examples where
  dialect : Dialect
  /-- The qualified name of a class. -/
  qualify : String → String
  /-- The arguments of constructors, by class name. -/
  constructors : Table (List Property)
  /-- Whether constructors take the required properties. -/
  withArguments : Bool

namespace Examples

variable (x : Examples)

/-! ## Literals -/

/-- A text in quotes: single ones in scripts, where single quotes inside become double ones. -/
def quoted (raw : String) (script : Bool) : String :=
  if script then "'" ++ Text.replaceChar (Text.escape raw) '\'' "\"" ++ "'"
  else "\"" ++ Text.escape raw ++ "\""

/-- A number with a letter at its end, unless it is there in either case. -/
def withSuffix (raw : String) (suffix : Char) : String :=
  if raw.toList.getLast?.any fun c => c.toLower == suffix.toLower then raw
  else raw ++ String.singleton suffix

/-- The name of the type in an expression. -/
def typeReference (e : ExampleSource) : String :=
  if e.isProperty then x.qualify e.dataType else e.dataType

/-! ## Types -/

/-- The example of an enumeration or a model; `construct` makes the call of a constructor. -/
def classExample? (construct : List Property → String) (e : ExampleSource) : Option String :=
  match e.allowableValues with
  | first :: rest =>
    let value := match e.shown with
      | some v => if (first :: rest).contains v then v else first
      | none => first
    some (x.typeReference e ++ ".fromValue(\"" ++ Text.escape value ++ "\")")
  | [] =>
    if e.isModel then
      match x.constructors.find? e.dataType with
      | none => none
      | some args =>
        if x.withArguments then some (construct args)
        else some (x.dialect.instantiate e.dataType "")
    else e.shown

/-- The example of a type that is no container. -/
def simpleExample? (construct : List Property → String) (e : ExampleSource) (script : Bool) :
    Option String :=
  match e.dataType with
  | "String" => some (quoted (e.shown.getD "example") script)
  | "File" => none
  | "java.io.File" => none
  | "Integer" => some (e.shown.getD "56")
  | "Int" => some (e.shown.getD "56")
  | "Short" => some (e.shown.getD "56")
  | "Long" => some (withSuffix (e.shown.getD "56") 'L')
  | "Float" => some (withSuffix (e.shown.getD "3.4") 'F')
  | "Double" => some (withSuffix (e.shown.getD "3.4") 'D')
  | "Boolean" => some (e.shown.getD "false")
  | other =>
    match x.dialect.scalarExample? other with
    | some fixed => some fixed
    | none => x.classExample? construct e

/-- The example of a container. -/
def containerExample? (e : ExampleSource) (script : Bool) : Option String :=
  match String.ofList (e.dataType.toList.takeWhile (· != '<')) with
  | "List" =>
    let inner := if e.itemsType == some "String" then quoted (e.itemsSample.getD "example") script
      else e.itemsSample.getD ""
    some (if script then "[" ++ inner ++ "]" else x.dialect.listExample inner e.itemsType)
  | "Set" => some (if script then "[].asSet()" else x.dialect.setExample)
  | "Map" => some (if script then "[:]" else x.dialect.mapExample)
  | _ => none

/-- The example of any type; `null` if there is none. -/
def exampleWith (construct : ExampleSource → List Property → String) (script : Bool)
    (e : ExampleSource) : String :=
  match x.containerExample? e script, x.simpleExample? (construct e) e script with
  | some text, _ => text
  | none, some text => text
  | none, none => "null"

/-- How deep constructor calls are nested. -/
def maxDepth : Nat := 4

/-- An example with constructor calls of a limited depth. -/
def nested (script : Bool) : Nat → ExampleSource → String
  | 0 => x.exampleWith (fun _ _ => "null") script
  | depth + 1 => x.exampleWith
    (fun e args => x.dialect.instantiate (x.typeReference e)
      (Text.join ", " (args.map fun p => nested script depth (.ofProperty p)))) script

/-- The example of a source, in the language of the program or in that of scripts. -/
def expression (e : ExampleSource) (script : Bool) : String := x.nested script maxDepth e

end Examples

end ApiLowering
