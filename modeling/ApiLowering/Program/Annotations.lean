import ApiLowering.Dialect.Basic
import ApiLowering.Program.Argument

/-!
# Annotated types

The type of a container as it is declared, with validation annotations on its type arguments, such
as `List<@Size(max=5) @NotNull String>`.

## Main definitions

* `Annotator` — which annotations there are.
* `Annotator.validations` — the annotations of a type argument.
* `Annotator.declaredType` — the type of a container with its annotated argument.
-/

namespace ApiLowering

/-- Which annotations there are. -/
structure Annotator where
  dialect : Dialect
  beanValidation : Bool

namespace Annotator

variable (a : Annotator)

/-! ## Annotations -/

/-- Whether a text is a whole number of 32 bits: digits after a sign or none. -/
def fitsInt32 (s : String) : Bool :=
  let (negative, ds) := match s.toList with
    | '-' :: rest => (true, rest)
    | '+' :: rest => (false, rest)
    | cs => (false, cs)
  let n := Number.digitsValue ds
  !ds.isEmpty && ds.all Char.isDigit && n ≤ if negative then Nat.pow 2 31 else Nat.pow 2 31 - 1

/-- The annotation of a bound. -/
def bound (kind value : String) (integral exclusive : Bool) : String :=
  if exclusive then "@Decimal" ++ kind ++ "(value=\"" ++ value ++ "\", inclusive=false)"
  else if integral then "@" ++ kind ++ "(" ++ value ++ (if fitsInt32 value then "" else "L") ++ ")"
  else "@Decimal" ++ kind ++ "(\"" ++ value ++ "\")"

/-- The annotation of a size. -/
def size (least most : Option Nat) : List String :=
  match least, most with
  | some m, some n => [s!"@Size(min={m}, max={n})"]
  | some m, none => [s!"@Size(min={m})"]
  | none, some n => [s!"@Size(max={n})"]
  | none, none => []

/-- The annotations of a type argument. -/
def validations (p : Property) : List String :=
  let c := p.constraints
  let flags := p.type.flags
  let integral := flags.isInteger || flags.isLong || flags.isShort
  (c.pattern.map fun pattern => "@Pattern(regexp=\"" ++ Text.escape pattern ++ "\")").toList ++
  (if p.type.isContainer then size c.minItems c.maxItems else size c.minLength c.maxLength) ++
  (if flags.isEmail then ["@Email"] else []) ++
  (c.minimum.map fun v => bound "Min" v integral c.exclusiveMinimum).toList ++
  (c.maximum.map fun v => bound "Max" v integral c.exclusiveMaximum).toList ++
  (if p.type.isModel then ["@Valid"] else []) ++
  (if p.isNullable then [] else a.dialect.notNullAnnotation.toList)

/-! ## Types -/

/-- The type of a container with the spelling of its argument. -/
def wrap (facts : TypeFacts) (argument : String) (container : String) : String :=
  if facts.isMap then container ++ "<String, " ++ argument ++ ">"
  else container ++ "<" ++ argument ++ ">"

/-- The spelling of a type that is no container of known items. -/
def plain (facts : TypeFacts) (withEnum : Bool) : String :=
  if withEnum then facts.datatypeWithEnum else facts.dataType

/-- A type with its annotations in front and the mark of nullable types behind. -/
def decorate (p : Property) (inner : String) : String :=
  let marked := inner ++ if p.isNullable then a.dialect.nullableMarker else ""
  let annotations := if a.beanValidation then a.validations p else []
  if annotations.isEmpty then marked else Text.join " " annotations ++ " " ++ marked

mutual

/-- A type argument with its annotations. -/
def argument (withEnum : Bool) : Property → String
  | p@{ items, .. } =>
    let inner :=
      if p.type.isContainer then
        match p.type.containerType, argumentOf withEnum items with
        | some container, some spelled => wrap p.type spelled container
        | _, _ => p.type.dataType
      else plain p.type withEnum
    a.decorate p inner

/-- The argument of a container, if its items are known. -/
def argumentOf (withEnum : Bool) : Option Property → Option String
  | some items => some (argument withEnum items)
  | none => none

end

/-- The type as it is declared: a container has its argument annotated, all else is spelled plainly.
-/
def declaredType (facts : TypeFacts) (items : Option Property) (withEnum : Bool) : String :=
  match facts.containerType, a.argumentOf withEnum items with
  | some container, some spelled => wrap facts spelled container
  | _, _ => plain facts withEnum

end Annotator

/-- The property with its declared types. -/
def Property.annotated (p : Property) (a : Annotator) : Property :=
  { p with
    facets.annotatedType := a.declaredType p.type p.items false
    facets.annotatedTypeWithEnum := a.declaredType p.type p.items true }

/-- The argument with its declared types. -/
def Argument.annotated (p : Argument) (a : Annotator) : Argument :=
  { p with
    facets.annotatedType := a.declaredType p.type p.items false
    facets.annotatedTypeWithEnum := a.declaredType p.type p.items true }

end ApiLowering
