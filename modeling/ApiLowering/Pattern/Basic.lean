import ApiLowering.Pattern.CharSet

/-!
# Search patterns

A pattern describes stretches of a text. It occurs in a text if some stretch fits it; which stretch
is of no interest, so that greedy and lazy repetitions are the same thing.

## Main definitions

* `Edge`, `Pattern` — conditions on a place in a text, patterns.
* `Pattern.ends` — where the stretches that start at a place and fit a pattern end.
* `Pattern.occursIn` — whether a pattern occurs in a text.

## Main results

* `Pattern.mem_ends_alt` — a stretch fits one of two patterns exactly when it fits the first or the
  second.
-/

namespace ApiLowering

/-- Where a place stands towards the words of a text. -/
inductive WordEdge where
  /-- Between a word character and something else. -/
  | edge
  /-- Between two word characters, or between two other things. -/
  | inside
  | start
  | finish
  /-- After no word character. -/
  | halfStart
  /-- Before no word character. -/
  | halfFinish
deriving Repr, DecidableEq

/-- Whether a place is such an edge, by whether word characters stand before and after it. -/
def WordEdge.holds : WordEdge → (before after : Bool) → Bool
  | .edge, before, after => before != after
  | .inside, before, after => before == after
  | .start, before, after => !before && after
  | .finish, before, after => before && !after
  | .halfStart, before, _ => !before
  | .halfFinish, _, after => !after

/-- A condition on a place in a text. -/
inductive Edge where
  | textStart
  | textFinish
  /-- The start of a line. Lines end at line feeds, or also at carriage returns. -/
  | lineStart (carriageReturns : Bool)
  | lineFinish (carriageReturns : Bool)
  /-- An edge of the words that consist of the characters of a set. -/
  | word (letters : CharSet) (kind : WordEdge)
deriving Repr

/-- Whether a place satisfies a condition. A carriage return and the line feed right after it end
one line together. -/
def Edge.holds (text : Array Char) (i : Nat) : Edge → Bool
  | .textStart => i == 0
  | .textFinish => i == text.size
  | .lineStart carriageReturns =>
    let before := text[i - 1]?
    i == 0 || before == some '\n' ||
      (carriageReturns && before == some '\r' && text[i]? != some '\n')
  | .lineFinish carriageReturns =>
    let after := text[i]?
    i == text.size || (carriageReturns && after == some '\r') ||
      (after == some '\n' && !(carriageReturns && i != 0 && text[i - 1]? == some '\r'))
  | .word letters kind =>
    kind.holds (i != 0 && text[i - 1]?.any letters.contains) (text[i]?.any letters.contains)

/-- A search pattern. -/
inductive Pattern where
  | empty
  /-- One character of a set. -/
  | one (set : CharSet)
  /-- The empty stretch at a place that satisfies a condition. -/
  | edge (e : Edge)
  | seq (p q : Pattern)
  | alt (p q : Pattern)
  | repetition (p : Pattern) (least : Nat) (most : Option Nat)
  /-- A group whose stretch is remembered, which makes no difference to whether it fits. -/
  | group (p : Pattern)
deriving Repr, Inhabited

namespace Pattern

/-- The places that are new, each once. -/
def fresh (seen new : List Nat) : List Nat :=
  new.foldl (fun acc i => if seen.contains i || acc.contains i then acc else acc ++ [i]) []

/-- The union of two lists of places. -/
def merge (seen new : List Nat) : List Nat := seen ++ fresh seen new

/-- Applies a step a number of times; once it changes nothing, it never will. -/
def iterate (step : List Nat → List Nat) : Nat → List Nat → List Nat
  | 0, places => places
  | n + 1, places =>
    let next := step places
    if next == places then places else iterate step n next

/-- All places that are reached by at most `n` steps. -/
def reach (step : List Nat → List Nat) : Nat → List Nat → List Nat
  | 0, places => places
  | n + 1, places =>
    let new := fresh places (step places)
    if new.isEmpty then places else reach step n (places ++ new)

/-- Where the stretches end that start at one of some places and fit the pattern. -/
def ends (text : Array Char) : Pattern → List Nat → List Nat
  | .empty, places => places
  | .one set, places =>
    places.filterMap fun i =>
      match text[i]? with
      | some c => if set.contains c then some (i + 1) else none
      | none => none
  | .edge e, places => places.filter fun i => e.holds text i
  | .seq p q, places => ends text q (ends text p places)
  | .alt p q, places => merge (ends text p places) (ends text q places)
  | .repetition p least most, places =>
    let step := ends text p
    let first := iterate step least places
    match most with
    | none => reach step (text.size + 1) first
    | some n => reach step (n - least) first
  | .group p, places => ends text p places

/-- Whether some stretch of a text fits the pattern. -/
def occursIn (p : Pattern) (s : String) : Bool :=
  let text := s.toList.toArray
  !(ends text p (List.range (text.size + 1))).isEmpty

/-! ## Laws -/

theorem mem_foldl_fresh (seen new acc : List Nat) (i : Nat) :
    i ∈ new.foldl (fun acc j => if seen.contains j || acc.contains j then acc else acc ++ [j]) acc ↔
      i ∈ acc ∨ (i ∈ new ∧ i ∉ seen) := by
  induction new generalizing acc with
  | nil => simp
  | cons j rest ih =>
    rw [List.foldl_cons, ih]
    by_cases h : seen.contains j || acc.contains j
    · rw [if_pos h]
      simp only [Bool.or_eq_true, List.contains_iff_mem] at h
      constructor
      · rintro (ha | ⟨hr, hs⟩)
        · exact Or.inl ha
        · exact Or.inr ⟨List.mem_cons_of_mem _ hr, hs⟩
      · rintro (ha | ⟨hr, hs⟩)
        · exact Or.inl ha
        · rcases List.mem_cons.1 hr with rfl | hr
          · exact Or.inl (h.resolve_left hs)
          · exact Or.inr ⟨hr, hs⟩
    · rw [if_neg h]
      simp only [Bool.or_eq_true, List.contains_iff_mem, not_or] at h
      simp only [List.mem_append, List.mem_cons, List.not_mem_nil, or_false]
      constructor
      · rintro ((ha | rfl) | ⟨hr, hs⟩)
        · exact Or.inl ha
        · exact Or.inr ⟨Or.inl rfl, h.1⟩
        · exact Or.inr ⟨Or.inr hr, hs⟩
      · rintro (ha | ⟨rfl | hr, hs⟩)
        · exact Or.inl (Or.inl ha)
        · exact Or.inl (Or.inr rfl)
        · exact Or.inr ⟨hr, hs⟩

/-- The union holds what either list holds. -/
theorem mem_merge (seen new : List Nat) (i : Nat) : i ∈ merge seen new ↔ i ∈ seen ∨ i ∈ new := by
  rw [merge, List.mem_append, fresh, mem_foldl_fresh]
  constructor
  · rintro (h | h | ⟨h, -⟩)
    · exact Or.inl h
    · exact absurd h (List.not_mem_nil)
    · exact Or.inr h
  · rintro (h | h)
    · exact Or.inl h
    · by_cases hs : i ∈ seen
      · exact Or.inl hs
      · exact Or.inr (Or.inr ⟨h, hs⟩)

/-- A choice ends where one of its sides ends. -/
theorem mem_ends_alt (text : Array Char) (p q : Pattern) (places : List Nat) (i : Nat) :
    i ∈ ends text (.alt p q) places ↔ i ∈ ends text p places ∨ i ∈ ends text q places := by
  rw [ends, mem_merge]

end Pattern

end ApiLowering
