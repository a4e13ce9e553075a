import ApiLowering.Pattern.Reader

/-!
# The meaning of written patterns

The flags in force decide what a written pattern stands for. A written pattern may be refused for
its size: it may not be nested too deeply, nor may its automaton, in which every repetition is
written out, take too much room.

## Main definitions

* `Flags` — the flags in force at a place.
* `Expression.pattern?` — the pattern that a written one stands for.
* `Pattern.weight` — the room that the automaton of a pattern takes.
* `Pattern.read?` — the pattern of a text.

## Main results

* `Pattern.ends_repeated_once` — a repetition that fits exactly once is what it repeats.
-/

namespace ApiLowering.Pattern

/-! ## Flags -/

/-- The flags in force. -/
structure Flags where
  ignoreCase : Bool := false
  lines : Bool := false
  dotAll : Bool := false
  unicode : Bool := true
  carriageReturns : Bool := false

/-- The flags after a change. -/
def Flags.after (f : Flags) (change : FlagChange) : Flags where
  ignoreCase := change.state .ignoreCase f.ignoreCase
  lines := change.state .lines f.lines
  dotAll := change.state .dotAll f.dotAll
  unicode := change.state .unicode f.unicode
  carriageReturns := change.state .carriageReturns f.carriageReturns

/-! ## Sets -/

/-- A set closed under changes of case, if case is ignored. -/
def Flags.fold (f : Flags) (set : CharSet) : CharSet :=
  if !f.ignoreCase then set else if f.unicode then .anyCase set else .anyAsciiCase set

/-- A set or its complement. A complement would hold single bytes that are no characters where the
sets hold bytes. -/
def Flags.negate? (f : Flags) (negated : Bool) (set : CharSet) : Option CharSet :=
  if !negated then some set else if f.unicode then some (.complement set) else none

/-- The set of a shorthand. -/
def Flags.shorthand (f : Flags) : Shorthand → CharSet
  | .digit => if f.unicode then .digit else .asciiDigit
  | .space => if f.unicode then .space else .asciiSpace
  | .word => if f.unicode then .word else .asciiWord

/-- Whether a character may stand in a set. -/
def Flags.admits (f : Flags) (c : Char) : Bool := f.unicode || c.toNat < 128

namespace SetExpression

mutual

/-- The set that a written one stands for. Case is folded where a bracket closes, before it is
negated, and for both sides of an operation. -/
def charSet? (f : Flags) : SetExpression → Option CharSet
  | .char c _ => if f.admits c then some (.single c) else none
  | .range first last => if f.admits last then some (.range first last) else none
  | .shorthand kind negated => f.negate? negated (f.shorthand kind)
  | .named set negated => f.negate? negated (f.fold set)
  | .property set negated => if f.unicode then f.negate? negated (f.fold set) else none
  | .bracket negated inner => do f.negate? negated (f.fold (← charSet? f inner))
  | .union items => do return .union (← charSets? f items)
  | .both s t => do return .both (f.fold (← charSet? f s)) (f.fold (← charSet? f t))
  | .without s t => do return .without (f.fold (← charSet? f s)) (f.fold (← charSet? f t))
  | .either s t => do return .either (f.fold (← charSet? f s)) (f.fold (← charSet? f t))

/-- The sets that some written ones stand for. -/
def charSets? (f : Flags) : List SetExpression → Option (List CharSet)
  | [] => some []
  | item :: items => do return (← charSet? f item) :: (← charSets? f items)

end

end SetExpression

/-! ## Patterns -/

/-- Whether only empty stretches fit. -/
def isAlwaysEmpty : Pattern → Bool
  | .empty => true
  | .one _ => false
  | .edge _ => true
  | .seq p q => isAlwaysEmpty p && isAlwaysEmpty q
  | .alt p q => isAlwaysEmpty p && isAlwaysEmpty q
  | .repetition p _ most => isAlwaysEmpty p || most == some 0
  | .group p => isAlwaysEmpty p

/-- A repetition. What fits empty stretches only is repeated once at most. -/
def repeated (p : Pattern) (least : Nat) (most : Option Nat) : Pattern :=
  let (least, most) :=
    if isAlwaysEmpty p then (min least 1, some (min (most.getD 1) 1)) else (least, most)
  if least = 0 ∧ most = some 0 then .empty
  else if least = 1 ∧ most = some 1 then p
  else .repetition p least most

/-- A choice of two patterns. Single characters make one set. -/
def oneOf : Pattern → Pattern → Pattern
  | .one s, .one t => .one (.union [s, t])
  | p, q => .alt p q

/-- The set of a dot. -/
def Flags.dot (f : Flags) : CharSet :=
  .complement <|
    if f.dotAll then .empty
    else if f.carriageReturns then .union [.single '\n', .single '\r']
    else .single '\n'

/-- The condition of an anchor. -/
def Flags.edge (f : Flags) : Anchor → Edge
  | .textStart => .textStart
  | .textFinish => .textFinish
  | .lineStart => if f.lines then .lineStart f.carriageReturns else .textStart
  | .lineFinish => if f.lines then .lineFinish f.carriageReturns else .textFinish
  | .word kind => .word (f.shorthand .word) kind

namespace Expression

mutual

/-- The pattern that a written one stands for, and the flags in force after it. Flags that are
switched between the parts of a group stay in force up to its end, bars or not. -/
def pattern? (f : Flags) : Expression → Option (Pattern × Flags)
  | .flags change => some (.empty, f.after change)
  | .set (.char c isByte) =>
    if isByte && !f.admits c then none else some (.one (f.fold (.single c)), f)
  | .set s => do return (.one (← s.charSet? f), f)
  | .dot => if f.unicode then some (.one f.dot, f) else none
  | .anchor a => some (.edge (f.edge a), f)
  | .repetition e least most => do
    let (p, _) ← pattern? f e
    return (repeated p least most, f)
  | .group isRemembered change e => do
    let (p, _) ← pattern? (f.after change) e
    return (if isRemembered then .group p else p, f)
  | .sequence parts => sequence? f parts
  | .choice parts => choice? f parts

/-- The pattern of a sequence. -/
def sequence? (f : Flags) : List Expression → Option (Pattern × Flags)
  | [] => some (.empty, f)
  | part :: parts => do
    let (p, f) ← pattern? f part
    let (q, f) ← sequence? f parts
    return (.seq p q, f)

/-- The pattern of a choice. -/
def choice? (f : Flags) : List Expression → Option (Pattern × Flags)
  | [] => some (.empty, f)
  | [part] => pattern? f part
  | part :: parts => do
    let (p, f) ← pattern? f part
    let (q, f) ← choice? f parts
    return (oneOf p q, f)

end

end Expression

/-! ## Limits -/

/-- The room of the transitions for a table. Neighbours share most of their bytes. -/
def tableRoom (table : List (Nat × Nat)) : Nat :=
  table.foldl (fun room (first, last) =>
    room + if last < 128 then 8 else if first = last then 38 else 74) 0

mutual

/-- The room of the transitions that read a character of a set. The automaton reads bytes, of which
a character beyond ASCII has several. Folding case doubles a range, and leaves tables as they are,
since they mostly hold the letters of either case. -/
def setRoom (isFolded : Bool) : CharSet → Nat
  | .range first last =>
    let room :=
      if last.toNat < 128 then 8
      else 36 * (last.utf8Size + 8 * (last.utf8Size - first.utf8Size))
    if isFolded then 2 * room else room
  | .ranges table => tableRoom table
  | .digit => 5052
  | .space => 616
  | .word => 49772
  | .union sets => setsRoom isFolded sets
  | .complement .digit => 12656
  | .complement .space => 1860
  | .complement .word => 46356
  | .complement set => setRoom isFolded set + 936
  | .both s t => min (setRoom isFolded s) (setRoom isFolded t)
  | .without s t => setRoom isFolded s + setRoom isFolded t
  | .either s t => setRoom isFolded s + setRoom isFolded t
  | .anyCase set => setRoom true set
  | .anyAsciiCase set => setRoom true set

/-- The room of the transitions for several sets. -/
def setsRoom (isFolded : Bool) : List CharSet → Nat
  | [] => 0
  | s :: ss => setRoom isFolded s + setsRoom isFolded ss

end

/-- The room that the automaton of a pattern takes, in bytes: 32 for each state, and the lists of
transitions. Repetitions are written out. -/
def weight : Pattern → Nat
  | .empty => 0
  | .one (.range first last) =>
    if first = last then 32 * first.utf8Size else 64 + setRoom false (.range first last)
  | .one set => 64 + setRoom false set
  | .edge _ => 32
  | .seq p q => weight p + weight q
  | .alt p q => weight p + weight q + 72
  | .repetition p least none => max least 1 * weight p + 40
  | .repetition p least (some most) => most * weight p + (most - least) * 40 + 32
  | .group p => weight p + 64

/-- A written pattern may have so many levels. -/
def depthLimit : Nat := 250

/-- The automaton of a pattern may take so many bytes. -/
def weightLimit : Nat := 10 * 1024 * 1024

/-- The pattern of a text; none if the text writes none down, or one that is too large. -/
def read? (s : String) : Option Pattern := do
  let e ← Expression.read? s
  if depthLimit < e.depth then none
  else
    let (p, _) ← e.pattern? {}
    if weightLimit < p.weight then none else some p

/-! ## Laws -/

/-- A repetition that fits exactly once is what it repeats. -/
theorem ends_repeated_once (text : Array Char) (p : Pattern) (places : List Nat) :
    ends text (repeated p 1 (some 1)) places = ends text p places := by
  have h : repeated p 1 (some 1) = p := by
    cases hp : isAlwaysEmpty p <;> simp [repeated, hp]
  rw [h]

end ApiLowering.Pattern
