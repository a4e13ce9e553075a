import ApiLowering.Json.Number
import Mathlib.Algebra.Group.Nat.Defs
import Mathlib.Data.List.Basic
import Mathlib.Data.List.TakeWhile

/-!
# Whole numbers and their literals

A literal without a fraction and an exponent is read digit by digit. Within 64 bits nothing is lost,
and the text of the number is the literal again; the literal `-0` alone is a double-precision
number, as only those know a negative zero.

## Main definitions

* `Number.integer?` — the value of a number that is read from a whole literal.

## Main results

* `Number.readLiteral?_natural`, `Number.readLiteral?_negated` — whole literals within 64 bits are
  read without loss.
* `Number.boundText_wide_literal` — a literal beyond 64 bits that is written with other digits.
-/

namespace ApiLowering

namespace Number

/-! ## Digits -/

lemma digitsValue_toString (n : Nat) : digitsValue (toString n).toList = n := by
  rw [Nat.toString_eq_repr, Nat.toList_repr]
  exact Nat.ofDigitChars_ten_toDigits

lemma isDigit_of_mem_toString {n : Nat} {c : Char} (hc : c ∈ (toString n).toList) :
    c.isDigit = true := by
  rw [Nat.toString_eq_repr, Nat.toList_repr] at hc
  exact Nat.isDigit_of_mem_toDigits (b := 10) (by decide) (by decide) hc

lemma takeDigits_toString (n : Nat) :
    takeDigits (toString n).toList = ((toString n).toList, []) := by
  rw [takeDigits, List.takeWhile_eq_self_iff.2 fun _ => isDigit_of_mem_toString,
    List.dropWhile_eq_nil_iff.2 fun _ => isDigit_of_mem_toString]

/-- Only the text of zero starts with a zero. -/
lemma head?_toString_ne_zero {n : Nat} (hn : 0 < n) : (toString n).toList.head? ≠ some '0' := by
  have leading : ∀ d < 10, 0 < d → [d.digitChar].head? ≠ some '0' := by decide
  rw [Nat.toString_eq_repr, Nat.toList_repr]
  induction n using Nat.strongRecOn with
  | ind n ih =>
    by_cases hlt : n < 10
    · rw [Nat.toDigits_of_lt_base hlt]
      exact leading n hlt hn
    · have hdigits := Nat.toDigits_of_base_le (b := 10) (by decide) (Nat.le_of_not_lt hlt)
      rw [hdigits, List.head?_append_of_ne_nil _ Nat.toDigits_ne_nil]
      exact ih (n / 10) (by omega) (by omega)

lemma toString_ne_nil (n : Nat) : (toString n).toList ≠ [] := by
  rw [Nat.toString_eq_repr, Nat.toList_repr]
  exact Nat.toDigits_ne_nil

/-- The text of a number is no digits that a literal may not start with. -/
lemma startsProperly_toString (n : Nat) :
    ((toString n).toList.isEmpty ||
      ((toString n).toList.head? == some '0' && (toString n).toList.length > 1)) = false := by
  rw [Bool.or_eq_false_iff, List.isEmpty_eq_false_iff]
  refine ⟨toString_ne_nil n, ?_⟩
  obtain rfl | hpos := Nat.eq_zero_or_pos n
  · decide
  · rw [beq_eq_false_iff_ne.2 (head?_toString_ne_zero hpos), Bool.false_and]

/-! ## Significands -/

/-- The significand after some digits. -/
def continued (significand : Nat) (ds : List Char) : Nat :=
  ds.foldl (fun n d => 10 * n + digitValue d) significand

lemma le_continued (significand : Nat) (ds : List Char) :
    significand ≤ continued significand ds := by
  induction ds generalizing significand with
  | nil => exact Nat.le_refl _
  | cons d ds ih => exact Nat.le_trans (by omega) (ih (10 * significand + digitValue d))

/-- Digits are read to their end if their value fits. -/
lemma accumulate_eq_of_lt {significand : Nat} {ds : List Char}
    (hfits : continued significand ds < 2 ^ 64) :
    accumulate significand ds = (continued significand ds, []) := by
  induction ds generalizing significand with
  | nil => rfl
  | cons d ds ih =>
    have hnext : significand * 10 + digitValue d = 10 * significand + digitValue d := by omega
    have hlt : 10 * significand + digitValue d < Nat.pow 2 64 :=
      Nat.lt_of_le_of_lt (le_continued _ ds) hfits
    rw [accumulate]
    simp only [hnext]
    rw [if_pos hlt]
    exact ih hfits

lemma accumulate_toString {n : Nat} (hn : n < 2 ^ 64) :
    accumulate 0 (toString n).toList = (n, []) := by
  have hvalue : continued 0 (toString n).toList = n := digitsValue_toString n
  rw [accumulate_eq_of_lt (by rwa [hvalue]), hvalue]

/-! ## Literals -/

/-- The value of a number that is read from a whole literal of at most 64 bits: a whole number, or
the zero of the literal `-0`. -/
def integer? : Number → Option Int
  | whole n => some n
  | double x => if x = Binary64.ofNat true 0 then some 0 else none

section Digits

variable {ds : List Char} {n : Nat}

/-- Digits that are read to their end are a literal. -/
lemma readLiteral?_digits (htake : takeDigits ds = (ds, []))
    (hstart : (ds.isEmpty || (ds.head? == some '0' && ds.length > 1)) = false)
    (hvalue : accumulate 0 ds = (n, [])) (hsign : ∀ rest, ds ≠ '-' :: rest) :
    readLiteral? ds = some (.number (.whole n), []) := by
  rw [readLiteral?]
  · simp only [htake, hstart, hvalue]
    rfl
  · exact hsign

/-- Digits that are read to their end are a literal after a sign, too. -/
lemma readLiteral?_sign_digits (htake : takeDigits ds = (ds, []))
    (hstart : (ds.isEmpty || (ds.head? == some '0' && ds.length > 1)) = false)
    (hvalue : accumulate 0 ds = (n, [])) (hpos : n ≠ 0) (hfits : n ≤ Nat.pow 2 63) :
    readLiteral? ('-' :: ds) = some (.number (.whole (-n)), []) := by
  simp only [readLiteral?, htake, hstart, hvalue]
  exact if_neg (not_or.2 ⟨hpos, Nat.not_lt.2 hfits⟩)

end Digits

/-- The text of a number does not start with a sign. -/
lemma toString_ne_minus (n : Nat) (rest : List Char) : (toString n).toList ≠ '-' :: rest := by
  intro heq
  have hdigit : Char.isDigit '-' = true := isDigit_of_mem_toString (n := n) (by rw [heq]; simp)
  exact absurd hdigit (by decide)

/-- **A literal without a sign is read without loss**, if it fits into 64 bits. -/
theorem readLiteral?_natural {n : Nat} (hn : n < 2 ^ 64) :
    readLiteral? (toString n).toList = some (.number (.whole n), []) :=
  readLiteral?_digits (takeDigits_toString n) (startsProperly_toString n) (accumulate_toString hn)
    (toString_ne_minus n)

/-- **A literal with a sign is read without loss**, if it fits into 64 bits; `-0` becomes the
negative zero. -/
theorem readLiteral?_negated {n : Nat} (hn : n ≤ 2 ^ 63) :
    ∃ x, readLiteral? ('-' :: (toString n).toList) = some (.number x, []) ∧
      x.integer? = some (-n : Int) := by
  obtain rfl | hpos := Nat.eq_zero_or_pos n
  · exact ⟨_, rfl, rfl⟩
  · have hfits : n < 2 ^ 64 := by omega
    exact ⟨_, readLiteral?_sign_digits (takeDigits_toString n) (startsProperly_toString n)
      (accumulate_toString hfits) hpos.ne' hn, rfl⟩

/-- **A literal beyond 64 bits gets other digits**: it is read as a double-precision number, and the
digits that this number does not need are filled up with zeros. -/
theorem boundText_wide_literal :
    ∃ x, readLiteral? "18446744073709551616".toList = some (.number x, []) ∧
      x.boundText true = "18446744073709552000" :=
  ⟨.double (Binary64.ofNat false (2 ^ 64)), rfl, by decide +kernel⟩

end Number

end ApiLowering
