import ApiLowering.Decimal.Shortest
import Mathlib.Tactic.Linarith
import Mathlib.Tactic.Ring

/-!
# Rounding to double precision

A double-precision number stands for all fractions that are nearest to it: those up to half a unit
of its last place away. Below a power of two the next number is half as far, and the fractions are
only a quarter of a unit away. The ends of the interval belong to the number if its significand is
even. Rounding gives back the number for every fraction of its interval.

## Main definitions

* `Binary64.Proper` — the significand and the exponent of a double-precision number.
* `Binary64.absValue` — the value without the sign.
* `Binary64.Covers` — a fraction is nearest to a number.
* `Binary64.fitted` — the exponent with which a fraction has a whole part of 53 bits.

## Main results

* `Binary64.proper_of_ofRatio?` — rounding finds double-precision numbers.
* `Binary64.ofRatio?_of_covers` — rounding finds the number that a fraction is nearest to.
* `Binary64.readsBack_iff` — reading back is being nearest to the number.
-/

namespace ApiLowering.Binary64

/-! ## Numbers -/

/-- The significand has as many bits as the exponent leaves. -/
structure Proper (x : Binary64) : Prop where
  lt : x.significand < 2 ^ 53
  minExponent_le : minExponent ≤ x.exponent
  le_maxExponent : x.exponent ≤ maxExponent
  full : 2 ^ 52 ≤ x.significand ∨ x.exponent = minExponent

/-- The value without the sign. -/
def absValue (x : Binary64) : ℚ := x.significand * 2 ^ x.exponent

/-- How far below a number its interval begins, in units of its last place. -/
def slack (x : Binary64) : ℚ :=
  if x.significand = 2 ^ 52 ∧ minExponent < x.exponent then 1 / 4 else 1 / 2

/-- A fraction is nearest to a number. -/
def Covers (x : Binary64) (q : ℚ) : Prop :=
  let low : ℚ := (x.significand - x.slack) * 2 ^ x.exponent
  let high : ℚ := (x.significand + 1 / 2) * 2 ^ x.exponent
  if x.significand % 2 = 0 then low ≤ q ∧ q ≤ high else low < q ∧ q < high

variable {x : Binary64} {q : ℚ} {num den : Nat}

lemma Covers.le (h : x.Covers q) : (x.significand - x.slack) * 2 ^ x.exponent ≤ q ∧
    q ≤ (x.significand + 1 / 2) * 2 ^ x.exponent := by
  rw [Covers] at h
  split at h
  · exact h
  · exact ⟨h.1.le, h.2.le⟩

/-- The ends of the interval belong to even significands. -/
lemma Covers.even (h : x.Covers q) (hend : q = (x.significand - x.slack) * 2 ^ x.exponent ∨
    q = (x.significand + 1 / 2) * 2 ^ x.exponent) : x.significand % 2 = 0 := by
  rw [Covers] at h
  split at h
  · assumption
  · rcases hend with rfl | rfl
    · exact absurd h.1 (lt_irrefl _)
    · exact absurd h.2 (lt_irrefl _)

lemma covers_of_lt (hlow : (x.significand - x.slack) * 2 ^ x.exponent < q)
    (hhigh : q < (x.significand + 1 / 2) * 2 ^ x.exponent) : x.Covers q := by
  rw [Covers]
  split
  · exact ⟨hlow.le, hhigh.le⟩
  · exact ⟨hlow, hhigh⟩

lemma slack_le (x : Binary64) : x.slack ≤ 1 / 2 := by
  rw [slack]
  split <;> norm_num

lemma le_slack (x : Binary64) : 1 / 4 ≤ x.slack := by
  rw [slack]
  split <;> norm_num

/-! ## Fractions -/

/-- A shift multiplies by a power of two. -/
lemma shiftRatio_spec (num : Nat) (hden : 0 < den) (shift : Int) :
    0 < (shiftRatio num den shift).2 ∧
      ((shiftRatio num den shift).1 : ℚ) / (shiftRatio num den shift).2 =
        num / den * 2 ^ shift := by
  rw [shiftRatio]
  split
  · rename_i hshift
    obtain ⟨k, rfl⟩ := Int.eq_ofNat_of_zero_le hshift
    refine ⟨hden, ?_⟩
    simp only [Int.toNat_natCast, Nat.pow_eq, Nat.cast_mul, Nat.cast_pow, Nat.cast_ofNat,
      zpow_natCast]
    ring
  · rename_i hshift
    obtain ⟨k, hk⟩ := Int.eq_ofNat_of_zero_le (Int.neg_nonneg_of_nonpos (not_le.1 hshift).le)
    obtain rfl : shift = -(k : Int) := by omega
    refine ⟨Nat.mul_pos hden (Nat.pow_pos two_pos), ?_⟩
    simp only [neg_neg, Int.toNat_natCast, Nat.pow_eq, Nat.cast_mul, Nat.cast_pow, Nat.cast_ofNat,
      zpow_neg, zpow_natCast]
    rw [div_mul_eq_div_div, div_eq_mul_inv]

/-- A quotient that is at most one half away from a whole number rounds to it; if it is just that
far away then the whole number has to be even. -/
lemma roundHalfEven_eq {m : Nat} (hden : 0 < den) (hlow : (m : ℚ) - 1 / 2 ≤ num / den)
    (hhigh : (num : ℚ) / den ≤ m + 1 / 2)
    (heven : (num : ℚ) / den = m - 1 / 2 ∨ (num : ℚ) / den = m + 1 / 2 → m % 2 = 0) :
    roundHalfEven num den = m := by
  have hpos : (0 : ℚ) < den := Nat.cast_pos.2 hden
  have hlow' : 2 * (m * den) ≤ 2 * num + den := by
    rw [le_div_iff₀ hpos] at hlow
    exact_mod_cast (by linarith : (2 : ℚ) * (m * den) ≤ 2 * num + den)
  have hhigh' : 2 * num ≤ 2 * (m * den) + den := by
    rw [div_le_iff₀ hpos] at hhigh
    exact_mod_cast (by linarith : (2 : ℚ) * num ≤ 2 * (m * den) + den)
  have heven' : 2 * (m * den) = 2 * num + den ∨ 2 * num = 2 * (m * den) + den → m % 2 = 0 := by
    intro h
    refine heven (h.imp (fun h => ?_) fun h => ?_)
    · have hq : (2 : ℚ) * (m * den) = 2 * num + den := by exact_mod_cast h
      rw [div_eq_iff hpos.ne']
      linarith
    · have hq : (2 : ℚ) * num = 2 * (m * den) + den := by exact_mod_cast h
      rw [div_eq_iff hpos.ne']
      linarith
  have hdiv : den * (num / den) + num % den = num := Nat.div_add_mod num den
  have hmod : num % den < den := Nat.mod_lt num hden
  -- The whole number is the quotient or the one after it.
  have hcases : m = num / den ∨ m = num / den + 1 := by
    have hmd : m * den = den * m := Nat.mul_comm m den
    by_contra hne
    rcases lt_or_ge m (num / den) with hlt | hge
    · have := Nat.mul_le_mul_left den (Nat.succ_le_of_lt hlt)
      rw [Nat.mul_succ] at this
      omega
    · have := Nat.mul_le_mul_left den (show num / den + 2 ≤ m by omega)
      rw [Nat.mul_add] at this
      omega
  rw [roundHalfEven]
  rcases hcases with hm | hm
  · have hmd : m * den = den * (num / den) := by rw [hm, Nat.mul_comm]
    simp only [← hm] at hmd hdiv ⊢
    split
    · rfl
    · split
      · omega
      · rw [if_pos (heven' (by omega))]
  · have hmd : m * den = den * (num / den) + den := by rw [hm, Nat.add_one_mul, Nat.mul_comm]
    split
    · omega
    · split
      · exact hm.symm
      · have := heven' (by omega)
        rw [if_neg (by omega)]
        exact hm.symm

/-! ## The exponent -/

lemma log2_bounds {n : Nat} (h : 0 < n) : (2 : ℚ) ^ (Nat.log2 n : Int) ≤ n ∧
    (n : ℚ) < 2 ^ ((Nat.log2 n : Int) + 1) := by
  have hlow : 2 ^ Nat.log2 n ≤ n := Nat.log2_self_le h.ne'
  have hhigh : n < 2 ^ (Nat.log2 n + 1) := Nat.lt_log2_self
  constructor
  · rw [zpow_natCast]
    exact_mod_cast hlow
  · rw [← Nat.cast_succ, zpow_natCast]
    exact_mod_cast hhigh

/-- The logarithms of a fraction's parts tell its size within a factor of four. -/
lemma log2_quotient_bounds (hnum : 0 < num) (hden : 0 < den) :
    (2 : ℚ) ^ ((Nat.log2 num : Int) - Nat.log2 den - 1) < num / den ∧
      (num : ℚ) / den < 2 ^ ((Nat.log2 num : Int) - Nat.log2 den + 1) := by
  obtain ⟨hnlow, hnhigh⟩ := log2_bounds hnum
  obtain ⟨hdlow, hdhigh⟩ := log2_bounds hden
  have hpos : (0 : ℚ) < den := Nat.cast_pos.2 hden
  have htwo : (2 : ℚ) ≠ 0 := two_ne_zero
  have hn : (0 : ℚ) < 2 ^ (Nat.log2 num : Int) := zpow_pos two_pos _
  constructor
  · rw [sub_sub, zpow_sub₀ htwo, lt_div_iff₀ hpos, div_mul_eq_mul_div,
      div_lt_iff₀ (zpow_pos two_pos _)]
    exact (mul_lt_mul_of_pos_left hdhigh hn).trans_le
      (mul_le_mul_of_nonneg_right hnlow (zpow_pos two_pos _).le)
  · rw [sub_add_eq_add_sub, zpow_sub₀ htwo, div_lt_iff₀ hpos, div_mul_eq_mul_div,
      lt_div_iff₀ (zpow_pos two_pos _)]
    exact (mul_lt_mul_of_pos_right hnhigh (zpow_pos two_pos _)).trans_le
      (mul_le_mul_of_nonneg_left hdlow (zpow_pos two_pos _).le)

/-- The exponent with which a fraction has a whole part of 53 bits. -/
def fitted (num den : Nat) : Int :=
  let guess : Int := (Nat.log2 num : Int) - (Nat.log2 den : Int) - 53
  let (n, d) := shiftRatio num den (-guess)
  if n / d < Nat.pow 2 53 then guess else guess + 1

lemma fitted_bounds (hnum : 0 < num) (hden : 0 < den) :
    (2 : ℚ) ^ (fitted num den + 52) ≤ num / den ∧
      (num : ℚ) / den < 2 ^ (fitted num den + 53) := by
  obtain ⟨hlow, hhigh⟩ := log2_quotient_bounds hnum hden
  rw [fitted]
  generalize hguess : (Nat.log2 num : Int) - (Nat.log2 den : Int) - 53 = guess
  obtain ⟨hpos, hshift⟩ := shiftRatio_spec num hden (-guess)
  generalize shiftRatio num den (-guess) = r at hpos hshift
  obtain ⟨n, d⟩ := r
  -- Whether the whole part fits tells on which side of a power of two the fraction is.
  have hfits : n / d < Nat.pow 2 53 ↔ (num : ℚ) / den < 2 ^ (guess + 53) := by
    have hd : (0 : ℚ) < d := Nat.cast_pos.2 hpos
    have hsplit : (2 : ℚ) ^ (guess + 53) = 2 ^ (53 : Nat) * 2 ^ guess := by
      rw [add_comm, zpow_add₀ two_ne_zero]
      norm_cast
    have hinv : (2 : ℚ) ^ (-guess) = (2 ^ guess)⁻¹ := zpow_neg 2 guess
    rw [Nat.div_lt_iff_lt_mul hpos, hsplit, ← div_lt_iff₀ (zpow_pos two_pos guess), div_eq_mul_inv,
      ← hinv, ← hshift, div_lt_iff₀ hd]
    norm_cast
  simp only
  split
  · rename_i hfit
    refine ⟨?_, hfits.1 hfit⟩
    have hexp : guess + 52 = (Nat.log2 num : Int) - Nat.log2 den - 1 := by omega
    rw [hexp]
    exact hlow.le
  · rename_i hfit
    refine ⟨?_, ?_⟩
    · have hexp : guess + 1 + 52 = guess + 53 := by ring
      rw [hexp]
      exact not_lt.1 fun h => hfit (hfits.2 h)
    · have hexp : guess + 1 + 53 = (Nat.log2 num : Int) - Nat.log2 den + 1 := by omega
      rw [hexp]
      exact hhigh

/-- The bits of a fraction tell its exponent. -/
lemma fitted_eq {e : Int} (hnum : 0 < num) (hden : 0 < den)
    (hlow : (2 : ℚ) ^ (e + 52) ≤ num / den) (hhigh : (num : ℚ) / den < 2 ^ (e + 53)) :
    fitted num den = e := by
  obtain ⟨hlow', hhigh'⟩ := fitted_bounds hnum hden
  have hle := (zpow_lt_zpow_iff_right₀ (one_lt_two : (1 : ℚ) < 2)).1 (hlow.trans_lt hhigh')
  have hge := (zpow_lt_zpow_iff_right₀ (one_lt_two : (1 : ℚ) < 2)).1 (hlow'.trans_lt hhigh)
  omega

lemma fitted_lt {e : Int} (hnum : 0 < num) (hden : 0 < den)
    (hhigh : (num : ℚ) / den < 2 ^ (e + 52)) : fitted num den < e := by
  have hlt := (fitted_bounds hnum hden).1.trans_lt hhigh
  have := (zpow_lt_zpow_iff_right₀ (one_lt_two : (1 : ℚ) < 2)).1 hlt
  omega

/-! ## Rounding -/

/-- The significand of a fraction at some exponent. -/
def significandAt (num den : Nat) (e : Int) : Nat :=
  let (n, d) := shiftRatio num den (-e)
  roundHalfEven n d

/-- A significand that has grown to 54 bits takes the next exponent. -/
lemma ofRatio?_eq {e : Int} {m : Nat} (negative : Bool) (hnum : num ≠ 0)
    (he : max (fitted num den) minExponent = e) (hm : significandAt num den e = m) :
    ofRatio? negative num den =
      if m = 2 ^ 53 then if e + 1 ≤ maxExponent then some ⟨negative, 2 ^ 52, e + 1⟩ else none
      else if e ≤ maxExponent then some ⟨negative, m, e⟩ else none := by
  subst he hm
  rw [ofRatio?, if_neg hnum]
  exact apply_ite (fun p : Nat × Int =>
    if p.2 ≤ maxExponent then some (Binary64.mk negative p.1 p.2) else none) _ _ _

/-- A fraction that is at most half a unit away from a whole number of units rounds to that number.
-/
lemma significandAt_eq {m : Nat} {e : Int} (hden : 0 < den)
    (hlow : (m - 1 / 2) * (2 : ℚ) ^ e ≤ num / den) (hhigh : (num : ℚ) / den ≤ (m + 1 / 2) * 2 ^ e)
    (heven : (num : ℚ) / den = (m - 1 / 2) * 2 ^ e ∨ (num : ℚ) / den = (m + 1 / 2) * 2 ^ e →
      m % 2 = 0) : significandAt num den e = m := by
  obtain ⟨hpos, hshift⟩ := shiftRatio_spec num hden (-e)
  have hunit : (0 : ℚ) < 2 ^ e := zpow_pos two_pos e
  rw [zpow_neg, ← div_eq_mul_inv] at hshift
  rw [significandAt]
  generalize shiftRatio num den (-e) = r at hpos hshift ⊢
  refine roundHalfEven_eq hpos ?_ ?_ fun h => heven ?_
  · rw [hshift, le_div_iff₀ hunit]
    exact hlow
  · rw [hshift, div_le_iff₀ hunit]
    exact hhigh
  · rwa [hshift, div_eq_iff hunit.ne', div_eq_iff hunit.ne'] at h

/-- At the exponent of a number, the fractions that are nearest to it round to its significand. -/
lemma Covers.significandAt_eq (h : x.Covers (num / den)) (hden : 0 < den) :
    significandAt num den x.exponent = x.significand := by
  obtain ⟨hlow, hhigh⟩ := h.le
  have hunit : (0 : ℚ) < 2 ^ x.exponent := zpow_pos two_pos _
  refine Binary64.significandAt_eq hden (le_trans ?_ hlow) hhigh fun hend => h.even (hend.imp_left ?_)
  · exact mul_le_mul_of_nonneg_right (by linarith [x.slack_le]) hunit.le
  · intro hq
    rw [hq, mul_le_mul_iff_left₀ hunit] at hlow
    rw [hq, le_antisymm x.slack_le (by linarith)]

lemma Covers.pos (hm : x.significand ≠ 0) (h : x.Covers q) : 0 < q := by
  have hunit : (0 : ℚ) < 2 ^ x.exponent := zpow_pos two_pos _
  have hone : (1 : ℚ) ≤ x.significand := by exact_mod_cast Nat.one_le_iff_ne_zero.2 hm
  exact (mul_pos (by linarith [x.slack_le]) hunit).trans_le h.le.1

/-- What is nearest to a number needs no more bits than the number has. -/
lemma Covers.lt (hx : x.Proper) (h : x.Covers q) : q < 2 ^ (x.exponent + 53) := by
  have hunit : (0 : ℚ) < 2 ^ x.exponent := zpow_pos two_pos _
  have hlt : (x.significand : ℚ) + 1 ≤ 2 ^ 53 := by exact_mod_cast hx.lt
  rw [add_comm, zpow_add₀ two_ne_zero]
  refine h.le.2.trans_lt (mul_lt_mul_of_pos_right ?_ hunit)
  exact lt_of_lt_of_le (by linarith) hlt

/-- What is nearest to a number is below the numbers with its exponent only if the number is the
least of them, a power of two. Then it is at most half a unit of the exponent before away. -/
lemma Covers.of_lt (hx : x.Proper) (hmin : minExponent < x.exponent) (h : x.Covers q)
    (hsmall : q < 2 ^ (x.exponent + 52)) : x.significand = 2 ^ 52 ∧
      (2 ^ 53 - 1 / 2) * 2 ^ (x.exponent - 1) ≤ q ∧ q < 2 ^ 53 * 2 ^ (x.exponent - 1) := by
  have hlow := h.le.1
  have hunit : (0 : ℚ) < 2 ^ x.exponent := zpow_pos two_pos _
  have hhalf : (2 : ℚ) ^ x.exponent = 2 * 2 ^ (x.exponent - 1) := by
    rw [← zpow_one_add₀ two_ne_zero]
    congr 1
    ring
  rw [show (52 : Int) = (52 : Nat) from rfl, add_comm, zpow_add₀ two_ne_zero,
    zpow_natCast] at hsmall
  have hsig : x.significand = 2 ^ 52 := by
    have hfull : 2 ^ 52 ≤ x.significand := hx.full.resolve_right hmin.ne'
    have hlt := (mul_lt_mul_iff_left₀ hunit).1 (hlow.trans_lt hsmall)
    have : (x.significand : ℚ) < (2 ^ 52 + 1 : Nat) := by
      push_cast
      linarith [x.slack_le]
    have : x.significand < 2 ^ 52 + 1 := by exact_mod_cast this
    omega
  have hslack : x.slack = 1 / 4 := if_pos ⟨hsig, hmin⟩
  rw [hslack, hsig, hhalf] at hlow
  rw [hhalf] at hsmall
  push_cast at hlow
  exact ⟨hsig, by linarith, by linarith⟩

/-- **Rounding finds the number that a fraction is nearest to.** -/
theorem ofRatio?_of_covers (hx : x.Proper) (hm : x.significand ≠ 0) (hden : 0 < den)
    (h : x.Covers (num / den)) : ofRatio? x.negative num den = some x := by
  have hnum : num ≠ 0 := by
    rintro rfl
    simpa using h.pos hm
  have hnum' : 0 < num := Nat.pos_of_ne_zero hnum
  by_cases hexp : max (fitted num den) minExponent = x.exponent
  · rw [ofRatio?_eq x.negative hnum hexp (h.significandAt_eq hden), if_neg hx.lt.ne,
      if_pos hx.le_maxExponent]
  · -- The fraction is below the power of two at which the exponent begins.
    have hsmall : (num : ℚ) / den < 2 ^ (x.exponent + 52) := by
      by_contra hnot
      rw [fitted_eq hnum' hden (not_lt.1 hnot) (h.lt hx), max_eq_left hx.minExponent_le] at hexp
      exact hexp rfl
    have hmin : minExponent < x.exponent := by
      refine lt_of_le_of_ne hx.minExponent_le fun hmin => hexp ?_
      rw [max_eq_right (hmin ▸ (fitted_lt hnum' hden hsmall).le), hmin]
    obtain ⟨hsig, hlow, hhigh⟩ := h.of_lt hx hmin hsmall
    have hunit : (0 : ℚ) < 2 ^ (x.exponent - 1) := zpow_pos two_pos _
    have hfit : max (fitted num den) minExponent = x.exponent - 1 := by
      rw [fitted_eq (e := x.exponent - 1) hnum' hden, max_eq_left (by omega)]
      · refine le_trans ?_ hlow
        rw [add_comm, zpow_add₀ two_ne_zero]
        exact mul_le_mul_of_nonneg_right (by norm_num) hunit.le
      · rw [add_comm, zpow_add₀ two_ne_zero]
        exact_mod_cast hhigh
    have hround : significandAt num den (x.exponent - 1) = 2 ^ 53 := by
      refine significandAt_eq hden ?_ ?_ fun _ => by norm_num
      · exact_mod_cast hlow
      · refine hhigh.le.trans ?_
        exact mul_le_mul_of_nonneg_right (by norm_num) hunit.le
    rw [ofRatio?_eq x.negative hnum hfit hround, if_pos rfl, sub_add_cancel,
      if_pos hx.le_maxExponent, ← hsig]

/-- Rounding keeps a quotient between whole numbers. -/
lemma roundHalfEven_bounds (hden : 0 < den) (k : Nat) :
    ((k : ℚ) ≤ num / den → k ≤ roundHalfEven num den) ∧
      ((num : ℚ) / den ≤ k → roundHalfEven num den ≤ k) := by
  have hpos : (0 : ℚ) < den := Nat.cast_pos.2 hden
  rw [le_div_iff₀ hpos, div_le_iff₀ hpos]
  have hdiv : den * (num / den) + num % den = num := Nat.div_add_mod num den
  constructor
  · intro h
    have hle : k ≤ num / den := (Nat.le_div_iff_mul_le hden).2 (by exact_mod_cast h)
    rw [roundHalfEven]
    split_ifs <;> omega
  · intro h
    have hle : num ≤ k * den := by exact_mod_cast h
    have hquotient : num / den ≤ k := Nat.div_le_of_le_mul (by rwa [Nat.mul_comm] at hle)
    rw [roundHalfEven]
    rcases hquotient.lt_or_eq with hlt | heq
    · split_ifs <;> omega
    · -- The quotient is whole.
      have hrest : num % den = 0 := by
        rw [heq, Nat.mul_comm] at hdiv
        omega
      rw [hrest]
      simp [hden, heq]

/-- At its exponent a fraction has a significand of at most 53 bits, and no fewer unless the exponent
is the smallest. -/
lemma significandAt_bounds (hnum : 0 < num) (hden : 0 < den) {e : Int}
    (he : max (fitted num den) minExponent = e) :
    significandAt num den e ≤ 2 ^ 53 ∧ (2 ^ 52 ≤ significandAt num den e ∨ e = minExponent) := by
  obtain ⟨hlow, hhigh⟩ := fitted_bounds hnum hden
  obtain ⟨hpos, hshift⟩ := shiftRatio_spec num hden (-e)
  have hunit : (0 : ℚ) < 2 ^ e := zpow_pos two_pos e
  rw [zpow_neg, ← div_eq_mul_inv] at hshift
  rw [significandAt]
  generalize shiftRatio num den (-e) = r at hpos hshift ⊢
  have hpow (k : Nat) : ((2 ^ k : Nat) : ℚ) * 2 ^ e = 2 ^ (e + k) := by
    rw [add_comm, zpow_add₀ two_ne_zero]
    norm_cast
  constructor
  · refine (roundHalfEven_bounds hpos _).2 ?_
    rw [hshift, div_le_iff₀ hunit, hpow]
    refine hhigh.le.trans (zpow_le_zpow_right₀ one_le_two ?_)
    push_cast
    omega
  · refine or_iff_not_imp_right.2 fun hmin => (roundHalfEven_bounds hpos _).1 ?_
    have hfitted : fitted num den = e := by omega
    rw [hshift, le_div_iff₀ hunit, hpow, ← hfitted]
    exact_mod_cast hlow

lemma proper_zero (negative : Bool) : (zero negative).Proper :=
  ⟨by norm_num [zero], le_rfl, by norm_num [zero, minExponent, maxExponent], .inr rfl⟩

/-- **What rounding finds is a double-precision number.** -/
theorem proper_of_ofRatio? {negative : Bool} (hden : 0 < den)
    (h : ofRatio? negative num den = some x) : x.Proper := by
  by_cases hnum : num = 0
  · rw [ofRatio?, if_pos hnum] at h
    obtain rfl := Option.some.inj h
    exact proper_zero negative
  · obtain ⟨hle, hfull⟩ := significandAt_bounds (Nat.pos_of_ne_zero hnum) hden rfl
    have hmin := le_max_right (fitted num den) minExponent
    rw [ofRatio?_eq negative hnum rfl rfl] at h
    split_ifs at h with hgrown hmax hmax
    · obtain rfl := Option.some.inj h
      exact ⟨by norm_num, by simp only; omega, hmax, .inl le_rfl⟩
    · obtain rfl := Option.some.inj h
      exact ⟨lt_of_le_of_ne hle hgrown, hmin, hmax, hfull⟩

/-- A fraction of a middle size rounds to a number, and not to zero. -/
lemma exists_ofRatio?_eq_some (negative : Bool) (hnum : 0 < num) (hden : 0 < den)
    (hmin : minExponent < fitted num den) (hmax : fitted num den < maxExponent) :
    ∃ y, ofRatio? negative num den = some y ∧ y.significand ≠ 0 := by
  have he : max (fitted num den) minExponent = fitted num den := max_eq_left hmin.le
  have hfull := (significandAt_bounds hnum hden he).2.resolve_right hmin.ne'
  rw [ofRatio?_eq negative hnum.ne' he rfl, if_pos hmax.le, if_pos (Int.add_one_le_iff.2 hmax)]
  split
  · exact ⟨_, rfl, by norm_num⟩
  · exact ⟨_, rfl, by simp only; omega⟩

/-! ## Decimals -/

lemma decimalRatio_spec (digits : Nat) (power : Int) : 0 < (decimalRatio digits power).2 ∧
    ((decimalRatio digits power).1 : ℚ) / (decimalRatio digits power).2 = digits * 10 ^ power := by
  rw [decimalRatio]
  split
  · rename_i hpower
    obtain ⟨k, rfl⟩ := Int.eq_ofNat_of_zero_le hpower
    refine ⟨one_pos, ?_⟩
    simp only [Int.toNat_natCast, Nat.pow_eq, Nat.cast_mul, Nat.cast_pow, Nat.cast_ofNat,
      Nat.cast_one, div_one, zpow_natCast]
  · rename_i hpower
    obtain ⟨k, hk⟩ := Int.eq_ofNat_of_zero_le (Int.neg_nonneg_of_nonpos (not_le.1 hpower).le)
    obtain rfl : power = -(k : Int) := by omega
    refine ⟨Nat.pow_pos (by norm_num), ?_⟩
    simp only [neg_neg, Int.toNat_natCast, Nat.pow_eq, Nat.cast_pow, Nat.cast_ofNat, zpow_neg,
      zpow_natCast]
    rw [div_eq_mul_inv]

/-- Products compare like fractions. -/
lemma mul_le_mul_iff_div_le_div {a b c d : Nat} (hb : 0 < b) (hd : 0 < d) :
    (a * d ≤ c * b ↔ (a : ℚ) / b ≤ c / d) ∧ (a * d < c * b ↔ (a : ℚ) / b < c / d) := by
  have hb' : (0 : ℚ) < b := Nat.cast_pos.2 hb
  have hd' : (0 : ℚ) < d := Nat.cast_pos.2 hd
  rw [div_le_div_iff₀ hb' hd', div_lt_div_iff₀ hb' hd']
  exact ⟨by exact_mod_cast Iff.rfl, by exact_mod_cast Iff.rfl⟩

/-- The start of the interval in quarters of a unit. -/
lemma quarters_sub_slack (hm : x.significand ≠ 0) :
    ((if x.significand == Nat.pow 2 52 && decide (minExponent < x.exponent) then
      4 * x.significand - 1 else 4 * x.significand - 2 : Nat) : ℚ) / (4 : Nat) =
        x.significand - x.slack := by
  have hone : 1 ≤ x.significand := Nat.one_le_iff_ne_zero.2 hm
  rw [slack]
  by_cases hnarrow : x.significand = 2 ^ 52 ∧ minExponent < x.exponent
  · rw [if_pos hnarrow, if_pos (by simpa using hnarrow), Nat.cast_sub (by omega)]
    push_cast
    ring
  · rw [if_neg hnarrow, if_neg (by simpa using hnarrow), Nat.cast_sub (by omega)]
    push_cast
    ring

/-- **Reading back is being nearest to the number.** -/
theorem readsBack_iff (hm : x.significand ≠ 0) (digits : Nat) (power : Int) :
    x.readsBack digits power = true ↔ x.Covers (digits * 10 ^ power) := by
  obtain ⟨hd, hdec⟩ := decimalRatio_spec digits power
  obtain ⟨hlowpos, hlow⟩ := shiftRatio_spec
    (if x.significand == Nat.pow 2 52 && decide (minExponent < x.exponent) then
      4 * x.significand - 1 else 4 * x.significand - 2) (by norm_num : 0 < 4) x.exponent
  obtain ⟨hhighpos, hhigh⟩ := shiftRatio_spec (4 * x.significand + 2) (by norm_num : 0 < 4)
    x.exponent
  have hhalf : ((4 * x.significand + 2 : Nat) : ℚ) / (4 : Nat) = x.significand + 1 / 2 := by
    push_cast
    ring
  rw [quarters_sub_slack hm] at hlow
  rw [hhalf] at hhigh
  obtain ⟨hle, hlt⟩ := mul_le_mul_iff_div_le_div (a := Prod.fst _) (c := Prod.fst _) hlowpos hd
  obtain ⟨hle', hlt'⟩ := mul_le_mul_iff_div_le_div (a := Prod.fst _) (c := Prod.fst _) hd hhighpos
  rw [Covers, ← hdec, ← hlow, ← hhigh, ← hle, ← hlt, ← hle', ← hlt', readsBack]
  simp only [beq_iff_eq]
  split <;> simp only [Bool.and_eq_true, decide_eq_true_eq]

end ApiLowering.Binary64
