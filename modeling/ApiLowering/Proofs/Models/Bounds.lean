import ApiLowering.Models.Property
import ApiLowering.Proofs.Json.Literals
import Mathlib

/-!
# The meaning of bounds

A schema bounds its values at either end with two keywords: an inclusive bound, and an exclusive
keyword that is either a flag of the inclusive bound or a bound of its own. The limits of a program
have one bound at either end, and a flag. Both say the same of every integer unless a schema sets
two different bounds at one end: the exclusive one is then lost, but makes the other one strict.

## Main definitions

* `RangeEnd` — the two ends of a range.
* `Schema.AdmitsAt`, `Constraints.AdmitsAt` — whether an integer keeps the bounds at one end.
* `Schema.AgreesAt` — whether the bounds at one end are the same, if there are two.

## Main results

* `Number.toInt?_boundText` — the text of a bound has the value of its literal.
* `Schema.admits_constraints_iff` — limits mean the same as the keywords exactly where these agree.
* `Schema.bounded_five_lost` — a schema with two lower bounds whose limits mean something else.
-/

namespace ApiLowering

/-! ## The text of a bound -/

/-- The text of the negative zero is its literal. -/
lemma Number.boundText_negativeZero (integral : Bool) :
    (Number.double (Binary64.ofNat true 0)).boundText integral = "-" ++ (0 : Nat).repr := by
  cases integral <;> decide +kernel

/-- **The text of a bound has the value of its literal.** -/
theorem Number.toInt?_boundText {x : Number} {v : Int} (hx : x.integer? = some v)
    (integral : Bool) : (x.boundText integral).toInt? = some v := by
  cases x with
  | whole n =>
    obtain rfl : n = v := Option.some.inj hx
    rw [boundText, Int.toString_eq_repr]
    exact Int.toInt?_repr n
  | double x =>
    obtain ⟨rfl, hv⟩ := Option.ite_none_right_eq_some.1 hx
    obtain rfl : 0 = v := Option.some.inj hv
    rw [boundText_negativeZero]
    exact String.toInt?_eq_some_iff.2 (.inr ⟨_, rfl, 0, Nat.toNat?_repr 0, rfl⟩)

/-! ## The ends of a range -/

/-- The two ends of a range. -/
inductive RangeEnd where
  | lower
  | upper

namespace RangeEnd

/-- Whether an integer lies strictly within a bound. -/
def Within : RangeEnd → Int → Int → Prop
  | lower, bound, x => bound < x
  | upper, bound, x => x < bound

/-- Whether an integer keeps a bound, which may be strict. -/
def Keeps (e : RangeEnd) (strict : Prop) (bound x : Int) : Prop :=
  e.Within bound x ∨ (¬strict ∧ x = bound)

variable {e : RangeEnd} {strict : Prop} {v w x : Int}

lemma keeps_of_strict (hstrict : strict) : e.Keeps strict v x ↔ e.Within v x := by
  simp [Keeps, hstrict]

lemma keeps_of_not_strict (hstrict : ¬strict) : e.Keeps strict v x ↔ e.Within v x ∨ x = v := by
  simp [Keeps, hstrict]

/-- A bound and a strict one together are the strict form of the first only if they are the same. -/
lemma forall_within_iff : (∀ x, (e.Within v x ∨ x = v) ∧ e.Within w x ↔ e.Within v x) ↔ v = w := by
  constructor
  · intro h
    -- the two bounds themselves tell the sides apart
    have hv := h v
    have hw := h w
    cases e <;> simp [Within] at hv hw <;> omega
  · rintro rfl x
    cases e <;> simp only [Within] <;> omega

end RangeEnd

/-! ## The bounds of schemas and of limits -/

namespace Schema

/-- The inclusive keyword at one end. -/
def inclusive? (s : Schema) : RangeEnd → Option Number
  | .lower => s.keywords.minimum
  | .upper => s.keywords.maximum

/-- The exclusive keyword at one end. -/
def exclusive? (s : Schema) : RangeEnd → Option Json
  | .lower => s.keywords.exclusiveMinimum
  | .upper => s.keywords.exclusiveMaximum

/-- The exclusive keyword at one end, if it is a bound of its own. -/
def exclusiveBound? (s : Schema) (e : RangeEnd) : Option Number :=
  match s.exclusive? e with
  | some (.number n) => some n
  | _ => none

/-- Whether all bounds are whole literals of at most 64 bits. -/
def HasWholeBounds (s : Schema) : Prop :=
  ∀ e, (∀ n ∈ s.inclusive? e, n.integer?.isSome) ∧ ∀ n ∈ s.exclusiveBound? e, n.integer?.isSome

/-- Whether an integer keeps the keywords at one end: the inclusive bound, which is strict if the
exclusive keyword is true, and the exclusive one. -/
def AdmitsAt (s : Schema) (e : RangeEnd) (x : Int) : Prop :=
  (∀ n ∈ s.inclusive? e, ∃ v, n.integer? = some v ∧
    e.Keeps (s.exclusive? e = some (.bool true)) v x) ∧
  ∀ n ∈ s.exclusiveBound? e, ∃ v, n.integer? = some v ∧ e.Within v x

/-- Whether an integer keeps all bounds. -/
def Admits (s : Schema) (x : Int) : Prop := ∀ e, s.AdmitsAt e x

/-- Whether the bounds at one end are the same, if there are two. -/
def AgreesAt (s : Schema) (e : RangeEnd) : Prop :=
  ∀ n ∈ s.inclusive? e, ∀ m ∈ s.exclusiveBound? e, n.integer? = m.integer?

end Schema

namespace Constraints

/-- The bound at one end. -/
def bound? (c : Constraints) : RangeEnd → Option String
  | .lower => c.minimum
  | .upper => c.maximum

/-- Whether the bound at one end is strict. -/
def excludes (c : Constraints) : RangeEnd → Bool
  | .lower => c.exclusiveMinimum
  | .upper => c.exclusiveMaximum

/-- Whether an integer keeps the bound at one end. -/
def AdmitsAt (c : Constraints) (e : RangeEnd) (x : Int) : Prop :=
  ∀ t ∈ c.bound? e, ∃ v, t.toInt? = some v ∧ e.Keeps (c.excludes e = true) v x

/-- Whether an integer keeps all bounds. -/
def Admits (c : Constraints) (x : Int) : Prop := ∀ e, c.AdmitsAt e x

end Constraints

/-! ## The limits of a schema -/

namespace Schema

variable (s : Schema) (e : RangeEnd)

lemma bound?_constraints :
    s.constraints.bound? e = s.boundText? (s.inclusive? e) (s.exclusive? e) := by
  cases e <;> rfl

lemma excludes_constraints : s.constraints.excludes e = isExclusiveBound (s.exclusive? e) := by
  cases e <;> rfl

variable {s e} {n m : Number} {v w x : Int}

lemma exclusiveBound?_eq_some_iff :
    s.exclusiveBound? e = some m ↔ s.exclusive? e = some (.number m) := by
  rw [exclusiveBound?]
  split <;> simp_all

/-- An exclusive keyword makes a bound strict if it is true or a bound of its own. -/
lemma isExclusiveBound_iff : isExclusiveBound (s.exclusive? e) = true ↔
    s.exclusive? e = some (.bool true) ∨ (s.exclusiveBound? e).isSome := by
  unfold exclusiveBound? isExclusiveBound
  cases s.exclusive? e with
  | none => simp
  | some k => cases k <;> simp

/-- The number whose text the limits have at one end. -/
lemma boundText?_eq : s.boundText? (s.inclusive? e) (s.exclusive? e) =
    ((s.inclusive? e).or (s.exclusiveBound? e)).map (Number.boundText (s.isType .integer)) := by
  unfold boundText? exclusiveBound?
  cases s.inclusive? e with
  | some n => rfl
  | none =>
    cases s.exclusive? e with
    | none => rfl
    | some k => cases k <;> rfl

/-- Limits have no bound if the schema has none. -/
lemma admitsAt_constraints_of_eq_none (hnone : (s.inclusive? e).or (s.exclusiveBound? e) = none) :
    s.constraints.AdmitsAt e x := by
  intro t ht
  rw [bound?_constraints, boundText?_eq, hnone] at ht
  cases ht

/-- What limits mean whose text is taken from a number. -/
lemma admitsAt_constraints_of_eq_some (hn : (s.inclusive? e).or (s.exclusiveBound? e) = some n)
    (hv : n.integer? = some v) :
    s.constraints.AdmitsAt e x ↔ e.Keeps (isExclusiveBound (s.exclusive? e) = true) v x := by
  rw [Constraints.AdmitsAt, bound?_constraints, excludes_constraints, boundText?_eq, hn]
  constructor
  · intro h
    obtain ⟨u, hu, hkeeps⟩ := h _ rfl
    obtain rfl : v = u := Option.some.inj ((Number.toInt?_boundText hv _).symm.trans hu)
    exact hkeeps
  · rintro hkeeps t ⟨⟩
    exact ⟨v, Number.toInt?_boundText hv _, hkeeps⟩

/-- What a schema means at an end with an inclusive bound. -/
lemma forall_inclusive_iff (hn : s.inclusive? e = some n) (hv : n.integer? = some v) :
    (∀ n ∈ s.inclusive? e, ∃ v, n.integer? = some v ∧
      e.Keeps (s.exclusive? e = some (.bool true)) v x) ↔
    e.Keeps (s.exclusive? e = some (.bool true)) v x := by
  simp [hn, hv]

lemma forall_exclusiveBound_iff (hm : s.exclusiveBound? e = some m) (hw : m.integer? = some w) :
    (∀ n ∈ s.exclusiveBound? e, ∃ v, n.integer? = some v ∧ e.Within v x) ↔ e.Within w x := by
  simp [hm, hw]

/-- Limits mean the same as the keywords at an end exactly if these agree. -/
lemma forall_admitsAt_constraints_iff (hs : s.HasWholeBounds) (e : RangeEnd) :
    (∀ x, s.AdmitsAt e x ↔ s.constraints.AdmitsAt e x) ↔ s.AgreesAt e := by
  obtain ⟨hinclusive, hexclusive⟩ := hs e
  cases hn : s.inclusive? e with
  | none =>
    have hagrees : s.AgreesAt e := fun n hmem => by rw [hn] at hmem; cases hmem
    refine iff_of_true (fun x => ?_) hagrees
    cases hm : s.exclusiveBound? e with
    | none =>
      refine iff_of_true ?_ (admitsAt_constraints_of_eq_none (by rw [hn, hm]; rfl))
      simp [AdmitsAt, hn, hm]
    | some m =>
      obtain ⟨w, hw⟩ := Option.isSome_iff_exists.1 (hexclusive m hm)
      have hstrict : isExclusiveBound (s.exclusive? e) = true :=
        isExclusiveBound_iff.2 (.inr (by rw [hm]; rfl))
      rw [admitsAt_constraints_of_eq_some (by rw [hn, hm]; rfl) hw,
        RangeEnd.keeps_of_strict hstrict, AdmitsAt, forall_exclusiveBound_iff hm hw]
      simp [hn]
  | some n =>
    obtain ⟨v, hv⟩ := Option.isSome_iff_exists.1 (hinclusive n hn)
    simp only [AdmitsAt, forall_inclusive_iff hn hv,
      admitsAt_constraints_of_eq_some (by rw [hn]; rfl) hv]
    cases hm : s.exclusiveBound? e with
    | none =>
      have hstrict : isExclusiveBound (s.exclusive? e) = true ↔
          s.exclusive? e = some (.bool true) := by
        rw [isExclusiveBound_iff, hm]
        simp
      simp [AgreesAt, hm, hstrict]
    | some m =>
      obtain ⟨w, hw⟩ := Option.isSome_iff_exists.1 (hexclusive m hm)
      have hnumber : s.exclusive? e = some (.number m) := exclusiveBound?_eq_some_iff.1 hm
      have hlax : ¬s.exclusive? e = some (.bool true) := by rw [hnumber]; simp
      have hstrict : isExclusiveBound (s.exclusive? e) = true := by rw [hnumber]; rfl
      have hagrees : s.AgreesAt e ↔ v = w := by simp [AgreesAt, hn, hm, hv, hw]
      simp only [RangeEnd.keeps_of_not_strict hlax, RangeEnd.keeps_of_strict hstrict, ← hm,
        forall_exclusiveBound_iff hm hw, hagrees]
      exact RangeEnd.forall_within_iff

/-- **Limits mean the same as the keywords exactly where these agree**: an inclusive and an
exclusive bound at one end have to be the same. If they are at both ends, the limits admit the same
integers as the schema. -/
theorem admits_constraints_iff {s : Schema} (hs : s.HasWholeBounds) :
    (∀ e, (∀ x, s.AdmitsAt e x ↔ s.constraints.AdmitsAt e x) ↔ s.AgreesAt e) ∧
      ((∀ e, s.AgreesAt e) → ∀ x, s.Admits x ↔ s.constraints.Admits x) := by
  refine ⟨forall_admitsAt_constraints_iff hs, fun hagrees x => ?_⟩
  exact forall_congr' fun e => (forall_admitsAt_constraints_iff hs e).2 (hagrees e) x

/-- The schema of an integer with an inclusive and an exclusive lower bound. -/
def bounded (inclusive exclusive : Int) : Schema :=
  { keywords :=
      { types := some (.one .integer)
        minimum := some (.whole inclusive)
        exclusiveMinimum := some (.number (.whole exclusive)) } }

lemma hasWholeBounds_bounded (inclusive exclusive : Int) :
    (bounded inclusive exclusive).HasWholeBounds := by
  intro e
  cases e <;> refine ⟨?_, ?_⟩ <;> rintro n ⟨⟩ <;> rfl

/-- The integers from six on: both bounds are five. -/
theorem admits_constraints_iff_bounded : (bounded 5 5).HasWholeBounds ∧
    (∀ e, (bounded 5 5).AgreesAt e) ∧
    ∀ x, (bounded 5 5).Admits x ↔ (bounded 5 5).constraints.Admits x := by
  have hagrees : ∀ e, (bounded 5 5).AgreesAt e := by
    rintro (_ | _) n ⟨⟩ m ⟨⟩
    rfl
  have hs := hasWholeBounds_bounded 5 5
  exact ⟨hs, hagrees, (admits_constraints_iff hs).2 hagrees⟩

/-- **A bound is lost beside another one**: with an inclusive bound five and an exclusive bound
three, a schema admits five, and its limits do not. -/
theorem bounded_five_lost : (bounded 5 3).HasWholeBounds ∧
    (bounded 5 3).Admits 5 ∧ ¬(bounded 5 3).constraints.Admits 5 := by
  refine ⟨hasWholeBounds_bounded 5 3, fun e => ?_, fun h => ?_⟩
  · cases e
    · refine ⟨?_, ?_⟩
      · rintro n ⟨⟩
        exact ⟨5, rfl, .inr ⟨by rintro ⟨⟩, rfl⟩⟩
      · rintro n ⟨⟩
        exact ⟨3, rfl, show (3 : Int) < 5 by decide⟩
    · refine ⟨?_, ?_⟩ <;> rintro n ⟨⟩
  · have hstrict : isExclusiveBound ((bounded 5 3).exclusive? .lower) = true := rfl
    have hlower := (admitsAt_constraints_of_eq_some (n := .whole 5) rfl rfl).1 (h .lower)
    exact absurd ((RangeEnd.keeps_of_strict hstrict).1 hlower) (show ¬(5 : Int) < 5 by decide)

end Schema

end ApiLowering
