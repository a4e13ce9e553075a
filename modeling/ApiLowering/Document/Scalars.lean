import ApiLowering.Tree
import ApiLowering.Yaml.Scalar

/-!
# Scalars in their places

What a position that knows its kind takes from a scalar. Where the scalar still has its spelling,
the spelling decides: a boolean or a number has to stand without quotes, whatever its tag, and a
tagged scalar is not null unless its tag says so.

## Main definitions

* `Leaf.bool?`, `Leaf.nat?` — a boolean, a natural number.
* `Leaf.isNull?` — whether a scalar stands for a missing value.
* `Leaf.choice?` — the name of one of several choices.

## Main results

* `Leaf.text?_ofText`, `Leaf.bool?_ofScalar` — a scalar without a spelling is its value.
-/

namespace ApiLowering

/-- Whether the kind of a scalar may be read off its spelling: it is plain, or a literal block under
the tag of that kind. -/
def Spelling.isOpen (s : Spelling) (tag : String) : Bool :=
  s.style == .plain || (s.style == .literal && s.tag == some tag)

/-- The tag of the author's own, without its exclamation mark. -/
def Spelling.mark? (s : Spelling) : Option String := s.tag.bind (Text.stripStart? "!")

namespace Leaf

/-- The scalar as a boolean. -/
def bool? (l : Leaf) : Option Bool :=
  match l.spelling, l.value with
  | some s, _ => if s.isOpen Yaml.boolTag then Yaml.boolean? s.text else none
  | none, .bool b => some b
  | none, _ => none

/-- The scalar as a natural number below `2 ^ 64`. -/
def nat? (l : Leaf) : Option Nat :=
  match l.spelling, l.value with
  | some s, _ => if s.isOpen Yaml.intTag then Yaml.unsigned? s.text else none
  | none, .number n => n.toNat?
  | none, _ => none

/-- Whether the scalar stands for a missing value; none if its tag says so and it does not. -/
def isNull? (l : Leaf) : Option Bool :=
  match l.spelling, l.value with
  | some s, _ =>
    if s.style != .plain then some false
    else match s.tag with
      | none => some (Yaml.isNullText s.text)
      | some tag =>
        if tag != Yaml.nullTag then some false
        else if Yaml.isNullWord s.text then some true else none
  | none, .null => some true
  | none, _ => some false

/-- Whether the scalar is empty and without quotes, so that it may stand for an empty collection. -/
def isBlank (l : Leaf) : Bool := l.spelling.any fun s => s.style == .plain && s.text == ""

/-- The name of a choice: the text, or the author's own tag over nothing. -/
def choice? (l : Leaf) : Option String :=
  match l.spelling.bind fun s => s.mark?.map fun mark => (s, mark) with
  | some (s, mark) => if s.style == .plain && Yaml.isNullText s.text then some mark else none
  | none => l.text?

/-- The text of a text. -/
theorem text?_ofText (s : String) : (ofText s).text? = some s := rfl

/-- The boolean of a boolean. -/
theorem bool?_ofScalar (b : Bool) : (ofScalar (.bool b)).bool? = some b := rfl

end Leaf

end ApiLowering
