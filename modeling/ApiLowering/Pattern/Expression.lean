import ApiLowering.Pattern.CharSet
import ApiLowering.Pattern.Basic

/-!
# Patterns as they are written

A written pattern still holds its groups, its flags and its brackets, whose meaning depends on the
flags in force.

## Main definitions

* `SetExpression`, `Expression` — sets and patterns as they are written.
* `Expression.depth` — how deeply a written pattern is nested.

## Main results

* `Expression.depth_ofSequence_singleton` — a sequence of one part adds no level.
-/

namespace ApiLowering.Pattern

/-! ## Flags -/

/-- What can be switched in a pattern. -/
inductive Flag where
  | ignoreCase
  /-- The anchors also take the ends of lines. -/
  | lines
  /-- A dot also takes the ends of lines. -/
  | dotAll
  /-- Repetitions are lazy unless marked. -/
  | lazyFirst
  /-- Characters beyond ASCII belong to the sets. -/
  | unicode
  /-- Carriage returns end lines, too. -/
  | carriageReturns
  /-- Blanks and comments between the parts are skipped. -/
  | verbose
deriving Repr, DecidableEq

/-- The flags that a pattern switches on and off at one place. -/
structure FlagChange where
  on : List Flag := []
  off : List Flag := []
deriving Repr

/-- Whether nothing is switched. -/
def FlagChange.isEmpty (change : FlagChange) : Bool := change.on.isEmpty && change.off.isEmpty

/-- The state of a flag after a change. -/
def FlagChange.state (change : FlagChange) (flag : Flag) (before : Bool) : Bool :=
  if flag ∈ change.on then true else if flag ∈ change.off then false else before

/-! ## Sets -/

/-- The sets with a one-letter name. -/
inductive Shorthand where
  | digit
  | space
  | word
deriving Repr, DecidableEq

/-- A set of characters as it is written. -/
inductive SetExpression where
  /-- A character; two hexadecimal digits stand for a byte. -/
  | char (c : Char) (isByte : Bool)
  | range (first last : Char)
  | shorthand (kind : Shorthand) (negated : Bool)
  /-- A set with a name between brackets and colons. -/
  | named (set : CharSet) (negated : Bool)
  /-- A set by a property of its characters. -/
  | property (set : CharSet) (negated : Bool)
  | bracket (negated : Bool) (inner : SetExpression)
  | union (items : List SetExpression)
  | both (s t : SetExpression)
  | without (s t : SetExpression)
  | either (s t : SetExpression)
deriving Repr

namespace SetExpression

/-- The items of a bracket as one set. -/
def ofItems : List SetExpression → SetExpression
  | [item] => item
  | items => .union items

mutual

/-- How deeply brackets and set operations are nested. Several items take a level of their own. -/
def depth : SetExpression → Nat
  | .char _ _ => 0
  | .range _ _ => 0
  | .shorthand _ _ => 0
  | .named _ _ => 0
  | .property _ _ => 0
  | .bracket _ inner => depth inner + 1
  | .union [] => 0
  | .union (item :: items) => max (depth item) (depthOfAll items) + 1
  | .both s t => max (depth s) (depth t) + 1
  | .without s t => max (depth s) (depth t) + 1
  | .either s t => max (depth s) (depth t) + 1

/-- The depth of the deepest of some sets. -/
def depthOfAll : List SetExpression → Nat
  | [] => 0
  | item :: items => max (depth item) (depthOfAll items)

end

end SetExpression

/-! ## Patterns -/

/-- An anchor as it is written. -/
inductive Anchor where
  | textStart
  | textFinish
  | lineStart
  | lineFinish
  | word (kind : WordEdge)
deriving Repr, DecidableEq

/-- A pattern as it is written. -/
inductive Expression where
  /-- Switches flags up to the end of the group. -/
  | flags (change : FlagChange)
  | set (set : SetExpression)
  | dot
  | anchor (a : Anchor)
  | repetition (e : Expression) (least : Nat) (most : Option Nat)
  /-- A group, remembered or not, that may switch flags inside. -/
  | group (isRemembered : Bool) (change : FlagChange) (e : Expression)
  | sequence (parts : List Expression)
  | choice (parts : List Expression)
deriving Repr

namespace Expression

/-- The parts between two bars as one pattern. -/
def ofSequence : List Expression → Expression
  | [part] => part
  | parts => .sequence parts

/-- The patterns between bars as one pattern. -/
def ofChoice : List Expression → Expression
  | [part] => part
  | parts => .choice parts

mutual

/-- How deeply groups, repetitions, brackets, sequences and choices are nested. -/
def depth : Expression → Nat
  | .flags _ => 0
  | .set s => s.depth
  | .dot => 0
  | .anchor _ => 0
  | .repetition e _ _ => depth e + 1
  | .group _ _ e => depth e + 1
  | .sequence [] => 0
  | .sequence (part :: parts) => max (depth part) (depthOfAll parts) + 1
  | .choice parts => depthOfAll parts + 1

/-- The depth of the deepest of some patterns. -/
def depthOfAll : List Expression → Nat
  | [] => 0
  | part :: parts => max (depth part) (depthOfAll parts)

end

/-- Whether a repetition may follow. -/
def isRepeatable : Expression → Bool
  | .flags _ => false
  | _ => true

/-- A sequence of one part adds no level. -/
theorem depth_ofSequence_singleton (e : Expression) : (ofSequence [e]).depth = e.depth := rfl

end Expression

end ApiLowering.Pattern
