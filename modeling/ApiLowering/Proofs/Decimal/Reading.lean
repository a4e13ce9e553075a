import ApiLowering.Proofs.Decimal.Rounding
import ApiLowering.Yaml.Scalar
import Mathlib.Data.Nat.Cast.Order.Field

/-!
# Decimals read back

The search for the digits of a number goes from coarse grids to fine ones. It begins at the first
digit of the number, and after at most twenty steps a grid is finer than the interval of the
fractions that are nearest to the number. So the search finds digits, and these give back the number
when they are read.

The numbers of documents are whole numbers and double-precision numbers. Whatever digits a literal
has, what they are read to is a rounding, or several of them one after the other, and the significand
and the exponent of a rounding fit together.

## Main definitions

* `Number.Proper` — a whole number, or a double-precision number whose parts fit together.

## Main results

* `Binary64.readsBack_search` — the search finds digits on a fine grid.
* `Binary64.pow_magnitude_le` — the first grid is not too coarse.
* `Binary64.covers_shortest` — the shortest digits are nearest to the number.
* `Binary64.ofDecimal?_eq_some` — reading them gives the number back, however they are laid out.
* `Number.proper_of_readLiteral?`, `Yaml.proper_of_number?` — the numbers of documents are proper.
-/

namespace ApiLowering

namespace Binary64

variable {x : Binary64}

lemma ratio_spec (x : Binary64) : 0 < x.ratio.2 ∧ (x.ratio.1 : ℚ) / x.ratio.2 = x.absValue := by
  obtain ⟨hpos, hvalue⟩ := shiftRatio_spec x.significand one_pos x.exponent
  exact ⟨hpos, by rw [ratio, hvalue, absValue, Nat.cast_one, div_one]⟩

lemma absValue_pos (hm : x.significand ≠ 0) : 0 < x.absValue :=
  mul_pos (Nat.cast_pos.2 (Nat.pos_of_ne_zero hm)) (zpow_pos two_pos _)

/-! ## Fine grids -/

/-- A number in steps of a power of ten, as a fraction. -/
def stepRatio (x : Binary64) (power : Int) : Nat × Nat :=
  if 0 ≤ power then (x.ratio.1, x.ratio.2 * Nat.pow 10 power.toNat)
  else (x.ratio.1 * Nat.pow 10 (-power).toNat, x.ratio.2)

lemma stepRatio_spec (x : Binary64) (power : Int) : 0 < (x.stepRatio power).2 ∧
    ((x.stepRatio power).1 : ℚ) / (x.stepRatio power).2 = x.absValue / 10 ^ power := by
  obtain ⟨hpos, hvalue⟩ := x.ratio_spec
  rw [stepRatio, ← hvalue]
  split
  · rename_i hpower
    obtain ⟨k, rfl⟩ := Int.eq_ofNat_of_zero_le hpower
    refine ⟨Nat.mul_pos hpos (Nat.pow_pos (by norm_num)), ?_⟩
    simp only [Int.toNat_natCast, Nat.pow_eq, Nat.cast_mul, Nat.cast_pow, Nat.cast_ofNat,
      zpow_natCast]
    rw [div_mul_eq_div_div]
  · rename_i hpower
    obtain ⟨k, hk⟩ := Int.eq_ofNat_of_zero_le (Int.neg_nonneg_of_nonpos (not_le.1 hpower).le)
    obtain rfl : power = -(k : Int) := by omega
    refine ⟨hpos, ?_⟩
    simp only [neg_neg, Int.toNat_natCast, Nat.pow_eq, Nat.cast_mul, Nat.cast_pow, Nat.cast_ofNat,
      zpow_neg, zpow_natCast, div_inv_eq_mul]
    rw [mul_div_right_comm]

/-- On a grid of at most a quarter of a unit the point below the number reads back. -/
lemma candidates_ne_nil (hm : x.significand ≠ 0) {power : Int}
    (hfine : (10 : ℚ) ^ power ≤ 2 ^ (x.exponent - 2)) : x.candidates power ≠ [] := by
  obtain ⟨hd, hsteps⟩ := x.stepRatio_spec power
  have hten : (0 : ℚ) < 10 ^ power := zpow_pos (by norm_num) _
  have hunit : (0 : ℚ) < 2 ^ x.exponent := zpow_pos two_pos _
  have hquarter : (2 : ℚ) ^ (x.exponent - 2) = 1 / 4 * 2 ^ x.exponent := by
    rw [zpow_sub₀ two_ne_zero]
    norm_num
    ring
  generalize hlow : (x.stepRatio power).1 / (x.stepRatio power).2 = low
  -- The point is less than one step below the number.
  have hle : (low : ℚ) * 10 ^ power ≤ x.absValue := by
    rw [← le_div_iff₀ hten, ← hsteps, ← hlow]
    exact Nat.cast_div_le
  have hlt : x.absValue < low * 10 ^ power + 10 ^ power := by
    have hnext : (x.stepRatio power).1 < (low + 1) * (x.stepRatio power).2 := by
      rw [← hlow, Nat.mul_comm]
      exact Nat.lt_mul_div_succ _ hd
    rw [← add_one_mul, ← div_lt_iff₀ hten, ← hsteps, div_lt_iff₀ (Nat.cast_pos.2 hd)]
    exact_mod_cast hnext
  have hcovers : x.Covers (low * 10 ^ power) := by
    rw [hquarter] at hfine
    rw [absValue] at hle hlt
    have hslack := mul_le_mul_of_nonneg_right x.le_slack hunit.le
    refine covers_of_lt ?_ ?_
    · rw [sub_mul]
      linarith
    · rw [add_mul]
      linarith
  have hreads := (readsBack_iff hm low power).2 hcovers
  have hmem : low ∈ x.candidates power := by
    rw [candidates, List.mem_filter]
    refine ⟨?_, hreads⟩
    have horder (c : Prop) [Decidable c] (m n : Nat) : m ∈ if c then [m, n] else [n, m] := by
      split <;> simp
    rw [← hlow]
    exact horder _ _ _
  exact List.ne_nil_of_mem hmem

/-- **The search finds digits** if its last grid is fine enough. -/
theorem readsBack_search (hm : x.significand ≠ 0) (finer : Nat) (power : Int)
    (hfine : (10 : ℚ) ^ (power - finer) ≤ 2 ^ (x.exponent - 2)) :
    x.readsBack (x.search finer power).1 (x.search finer power).2 = true := by
  induction finer generalizing power with
  | zero =>
    rw [Nat.cast_zero, sub_zero] at hfine
    obtain ⟨digits, others, hcandidates⟩ :=
      List.exists_cons_of_ne_nil (candidates_ne_nil hm hfine)
    have hmem : digits ∈ x.candidates power := hcandidates ▸ List.mem_cons_self
    rw [search, hcandidates]
    exact x.readsBack_of_mem_candidates power hmem
  | succ finer ih =>
    rw [search]
    split
    · rename_i digits others hcandidates
      have hmem : digits ∈ x.candidates power := hcandidates ▸ List.mem_cons_self
      exact x.readsBack_of_mem_candidates power hmem
    · refine ih (power - 1) ?_
      rwa [sub_sub, add_comm, ← Nat.cast_succ]

/-! ## The first grid -/

/-- The logarithm of a number's fraction. -/
def log2Ratio (x : Binary64) : Int := (Nat.log2 x.ratio.1 : Int) - (Nat.log2 x.ratio.2 : Int)

/-- The sizes of double-precision numbers. -/
lemma Proper.log2Ratio_bounds (hx : x.Proper) (hm : x.significand ≠ 0) :
    -1076 ≤ x.log2Ratio ∧ x.log2Ratio ≤ 1024 ∧ (2 : ℚ) ^ (x.log2Ratio - 1) < x.absValue := by
  obtain ⟨hd, hvalue⟩ := x.ratio_spec
  have hpos := absValue_pos hm
  have hn : 0 < x.ratio.1 := by
    refine Nat.pos_of_ne_zero fun hzero => hpos.ne ?_
    rw [← hvalue, hzero, Nat.cast_zero, zero_div]
  obtain ⟨hlow, hhigh⟩ := log2_quotient_bounds hn hd
  rw [hvalue] at hlow hhigh
  have hmin : (2 : ℚ) ^ (-1074 : Int) ≤ x.absValue := by
    have hone : (1 : ℚ) ≤ x.significand := by exact_mod_cast Nat.one_le_iff_ne_zero.2 hm
    have hexp : (2 : ℚ) ^ (-1074 : Int) ≤ 2 ^ x.exponent :=
      zpow_le_zpow_right₀ one_le_two hx.minExponent_le
    exact hexp.trans (le_mul_of_one_le_left (zpow_pos two_pos _).le hone)
  have hmax : x.absValue < 2 ^ (1024 : Int) := by
    have hlt : (x.significand : ℚ) < 2 ^ (53 : Int) := by exact_mod_cast hx.lt
    have hexp : (2 : ℚ) ^ x.exponent ≤ 2 ^ (971 : Int) :=
      zpow_le_zpow_right₀ one_le_two hx.le_maxExponent
    calc x.absValue < 2 ^ (53 : Int) * 2 ^ x.exponent :=
          mul_lt_mul_of_pos_right hlt (zpow_pos two_pos _)
      _ ≤ 2 ^ (53 : Int) * 2 ^ (971 : Int) :=
          mul_le_mul_of_nonneg_left hexp (zpow_pos two_pos _).le
      _ = 2 ^ (1024 : Int) := by rw [← zpow_add₀ two_ne_zero]; rfl
  have hbelow := (zpow_lt_zpow_iff_right₀ (one_lt_two : (1 : ℚ) < 2)).1 (hmin.trans_lt hhigh)
  have habove := (zpow_lt_zpow_iff_right₀ (one_lt_two : (1 : ℚ) < 2)).1 (hlow.trans hmax)
  change -1074 < x.log2Ratio + 1 at hbelow
  change x.log2Ratio - 1 < 1024 at habove
  exact ⟨by omega, by omega, hlow⟩

/-- Powers of ten and of two are compared by what is known of some of them. -/
lemma ten_zpow_le_two_zpow {a b : Int} {k l : Nat} (hl : l ≠ 0)
    (hkl : ((10 : ℚ) ^ k) ^ b ≤ (2 ^ l) ^ b) (hab : l * a ≤ k * b) : (10 : ℚ) ^ a ≤ 2 ^ b := by
  refine (pow_le_pow_iff_left₀ (zpow_pos (by norm_num) _).le (zpow_pos two_pos _).le hl).1 ?_
  calc ((10 : ℚ) ^ a) ^ l = 10 ^ (l * a) := by rw [← zpow_natCast, ← zpow_mul, mul_comm]
    _ ≤ 10 ^ (k * b) := zpow_le_zpow_right₀ (by norm_num) hab
    _ = (10 ^ k) ^ b := by rw [← zpow_natCast, ← zpow_mul]
    _ ≤ (2 ^ l) ^ b := hkl
    _ = (2 ^ b) ^ l := by rw [← zpow_natCast, ← zpow_natCast, ← zpow_mul, ← zpow_mul, mul_comm]

/-- The guess at the number of digits. -/
def guess (x : Binary64) : Int := x.log2Ratio * 30103 / 100000 - 1

lemma pow_guess_le (hx : x.Proper) (hm : x.significand ≠ 0) :
    (10 : ℚ) ^ (x.guess - 4) ≤ x.absValue := by
  obtain ⟨hmin, hmax, hlow⟩ := hx.log2Ratio_bounds hm
  refine le_trans ?_ hlow.le
  rcases le_or_gt 1 x.log2Ratio with hlarge | hsmall
  · refine ten_zpow_le_two_zpow (k := 3) (l := 10) (by norm_num) ?_ (by rw [guess]; omega)
    exact zpow_le_zpow_left₀ (by omega) (by norm_num) (by norm_num)
  · refine ten_zpow_le_two_zpow (k := 28) (l := 93) (by norm_num) ?_ (by rw [guess]; omega)
    -- The exponent is negative, and so the greater base has the smaller power.
    obtain ⟨c, hc⟩ := Int.eq_ofNat_of_zero_le (show 0 ≤ -(x.log2Ratio - 1) by omega)
    rw [show x.log2Ratio - 1 = -(c : Int) by omega, zpow_neg, zpow_neg, zpow_natCast, zpow_natCast]
    exact inv_anti₀ (by positivity) (pow_le_pow_left₀ (by norm_num) (by norm_num) c)

/-- Whether the number is below a power of ten. -/
def isBelow (x : Binary64) (k : Int) : Bool :=
  if 0 ≤ k then x.ratio.1 < x.ratio.2 * Nat.pow 10 k.toNat
  else x.ratio.1 * Nat.pow 10 (-k).toNat < x.ratio.2

lemma isBelow_iff (x : Binary64) (k : Int) : x.isBelow k = true ↔ x.absValue < 10 ^ k := by
  obtain ⟨hd, hsteps⟩ := x.stepRatio_spec k
  have hten : (0 : ℚ) < 10 ^ k := zpow_pos (by norm_num) _
  have hone : x.absValue < 10 ^ k ↔ x.absValue / 10 ^ k < 1 := (div_lt_one hten).symm
  have hlt : x.isBelow k = true ↔ (x.stepRatio k).1 < (x.stepRatio k).2 := by
    rw [isBelow, stepRatio]
    split <;> exact decide_eq_true_iff
  rw [hone, ← hsteps, div_lt_one (Nat.cast_pos.2 hd), Nat.cast_lt, hlt]

lemma magnitude_eq (x : Binary64) : x.magnitude =
    if x.isBelow x.guess then x.guess
    else if x.isBelow (x.guess + 1) then x.guess + 1
    else if x.isBelow (x.guess + 2) then x.guess + 2
    else x.guess + 3 := rfl

/-- **The first grid is not too coarse.** -/
theorem pow_magnitude_le (hx : x.Proper) (hm : x.significand ≠ 0) :
    (10 : ℚ) ^ (x.magnitude - 4) ≤ x.absValue := by
  have hnot {k l : Int} (hk : ¬x.isBelow k = true) (hl : l - 4 ≤ k) :
      (10 : ℚ) ^ (l - 4) ≤ x.absValue := by
    rw [isBelow_iff, not_lt] at hk
    exact (zpow_le_zpow_right₀ (by norm_num) hl).trans hk
  rw [magnitude_eq]
  split
  · exact pow_guess_le hx hm
  · rename_i hzero
    split
    · exact hnot hzero (by omega)
    · rename_i hfirst
      split
      · exact hnot hfirst (by omega)
      · rename_i hsecond
        exact hnot hsecond (by omega)

/-! ## The digits -/

/-- Zeros at the end of the digits have no value. -/
lemma value_stripZeros (fuel digits : Nat) (power : Int) :
    ((stripZeros fuel digits power).1 : ℚ) * 10 ^ (stripZeros fuel digits power).2 =
      digits * 10 ^ power := by
  induction fuel generalizing digits power with
  | zero => rfl
  | succ fuel ih =>
    rw [stripZeros]
    split
    · rename_i hzero
      obtain ⟨k, rfl⟩ := Nat.dvd_of_mod_eq_zero hzero.2
      rw [ih, Nat.mul_div_cancel_left k (by norm_num), zpow_add_one₀ (by norm_num)]
      push_cast
      ring
    · rfl

/-- **The shortest digits are nearest to the number.** -/
theorem covers_shortest (hx : x.Proper) (hm : x.significand ≠ 0) :
    x.Covers (x.shortest.1 * 10 ^ x.shortest.2) := by
  have hfine : (10 : ℚ) ^ (x.magnitude - 1 - (20 : Nat)) ≤ 2 ^ (x.exponent - 2) := by
    have hlt : x.absValue < 2 ^ (53 : Int) * 2 ^ x.exponent :=
      mul_lt_mul_of_pos_right (by exact_mod_cast hx.lt) (zpow_pos two_pos _)
    have hsplit : (10 : ℚ) ^ (x.magnitude - 1 - (20 : Nat)) =
        10 ^ (x.magnitude - 4) / 10 ^ (17 : Int) := by
      rw [← zpow_sub₀ (by norm_num)]
      congr 1
      push_cast
      ring
    rw [hsplit, div_le_iff₀ (by norm_num)]
    calc (10 : ℚ) ^ (x.magnitude - 4) ≤ x.absValue := pow_magnitude_le hx hm
      _ ≤ 2 ^ (53 : Int) * 2 ^ x.exponent := hlt.le
      _ = 2 ^ (x.exponent - 2) * 2 ^ (55 : Int) := by
          rw [← zpow_add₀ two_ne_zero, ← zpow_add₀ two_ne_zero]
          congr 1
          ring
      _ ≤ 2 ^ (x.exponent - 2) * 10 ^ (17 : Int) :=
          mul_le_mul_of_nonneg_left (by norm_num) (zpow_pos two_pos _).le
  have hreads := (readsBack_iff hm _ _).1 (readsBack_search hm 20 (x.magnitude - 1) hfine)
  rw [shortest, if_neg hm]
  simp only
  rwa [value_stripZeros]

lemma ofDecimal?_eq (negative : Bool) (digits : Nat) (power : Int) :
    ofDecimal? negative digits power =
      ofRatio? negative (decimalRatio digits power).1 (decimalRatio digits power).2 := by
  rw [ofDecimal?, decimalRatio]
  split <;> rfl

lemma Proper.eq_zero (hx : x.Proper) (hm : x.significand = 0) : x = zero x.negative := by
  have hexp : x.exponent = minExponent := hx.full.resolve_left (by rw [hm]; norm_num)
  rw [zero, ← hm, ← hexp]

/-- **Reading the shortest digits gives the number back**, wherever the point is put and however
many zeros follow. -/
theorem ofDecimal?_eq_some (hx : x.Proper) {digits : Nat} {power : Int}
    (h : (digits : ℚ) * 10 ^ power = x.shortest.1 * 10 ^ x.shortest.2) :
    ofDecimal? x.negative digits power = some x := by
  obtain ⟨hd, hvalue⟩ := decimalRatio_spec digits power
  rw [ofDecimal?_eq]
  by_cases hm : x.significand = 0
  · rw [shortest, if_pos hm, Nat.cast_zero, zero_mul] at h
    rw [h, div_eq_zero_iff] at hvalue
    have hzero := hvalue.resolve_right (Nat.cast_ne_zero.2 hd.ne')
    rw [Nat.cast_eq_zero.1 hzero, ofRatio?, if_pos rfl, ← hx.eq_zero hm]
  · refine ofRatio?_of_covers hx hm hd ?_
    rw [hvalue, h]
    exact covers_shortest hx hm

end Binary64

/-! ## Scaling -/

namespace Binary64

variable {x y : Binary64}

lemma proper_ofNat (negative : Bool) (n : Nat) : (ofNat negative n).Proper := by
  rw [ofNat]
  cases h : ofRatio? negative n 1 with
  | none => exact proper_zero negative
  | some x => exact proper_of_ofRatio? one_pos h

/-- The powers of ten by which numbers are scaled are in range. -/
lemma significand_ofNat10 {k : Nat} (hk : k ≤ Number.maxPower) :
    (scale10?.ofNat10 k).significand ≠ 0 := by
  rcases hk.lt_or_eq with hlt | rfl
  · have hten : 0 < Nat.pow 10 k := Nat.pow_pos (by norm_num)
    have hmin : minExponent < fitted (Nat.pow 10 k) 1 := by
      have hone : (2 : ℚ) ^ (0 : Int) < 2 ^ (fitted (Nat.pow 10 k) 1 + 53) := by
        refine lt_of_le_of_lt ?_ (fitted_bounds hten one_pos).2
        rw [zpow_zero, Nat.cast_one, div_one]
        exact_mod_cast hten
      have hexp := (zpow_lt_zpow_iff_right₀ (one_lt_two : (1 : ℚ) < 2)).1 hone
      rw [minExponent]
      omega
    have hmax : fitted (Nat.pow 10 k) 1 < maxExponent := by
      refine fitted_lt hten one_pos ?_
      have hk' : k ≤ 307 := Nat.le_of_lt_succ hlt
      have hlarge : 10 ^ k < 2 ^ 1023 :=
        (Nat.pow_le_pow_right (by norm_num) hk').trans_lt (by decide +kernel)
      rw [Nat.cast_one, div_one, show maxExponent + 52 = (1023 : Nat) from rfl, zpow_natCast]
      exact_mod_cast hlarge
    obtain ⟨x, hx, hsignificand⟩ := exists_ofRatio?_eq_some false hten one_pos hmin hmax
    rwa [scale10?.ofNat10, hx]
  · decide +kernel

/-- Scaling finds a double-precision number. -/
lemma proper_of_scale10? {divide : Bool} {k : Nat} (hk : k ≤ Number.maxPower)
    (h : x.scale10? divide k = some y) : y.Proper := by
  obtain ⟨hd, -⟩ := x.ratio_spec
  obtain ⟨hpd, hvalue⟩ := (scale10?.ofNat10 k).ratio_spec
  have hpn : 0 < (scale10?.ofNat10 k).ratio.1 := by
    refine Nat.pos_of_ne_zero fun hzero => ?_
    rw [hzero, Nat.cast_zero, zero_div] at hvalue
    exact (absValue_pos (significand_ofNat10 hk)).ne hvalue
  rw [scale10?] at h
  simp only at h
  split at h
  · exact proper_of_ofRatio? (Nat.mul_pos hd hpn) h
  · exact proper_of_ofRatio? (Nat.mul_pos hd hpd) h

lemma proper_of_ofDecimal? {negative : Bool} {digits : Nat} {power : Int}
    (h : ofDecimal? negative digits power = some x) : x.Proper := by
  rw [ofDecimal?] at h
  split at h
  · exact proper_of_ofRatio? one_pos h
  · exact proper_of_ofRatio? (Nat.pow_pos (by norm_num)) h

end Binary64

/-! ## Numbers of documents -/

namespace Number

open Binary64

/-- A number as documents have it. -/
def Proper : Number → Prop
  | whole _ => True
  | double x => x.Proper

variable {x y : Binary64} {n : Number}

lemma proper_of_scaled? {e : Int} (hx : x.Proper) (h : scaled? x e = some y) : y.Proper := by
  rw [scaled?] at h
  split_ifs at h with hzero hneg hpower
  · exact Option.some.inj h ▸ hx
  · obtain ⟨z, -, h⟩ := Option.bind_eq_some_iff.1 h
    refine proper_of_scale10? ?_ h
    have := Nat.div_add_mod (e.natAbs - 1) maxPower
    have := Nat.mod_lt (e.natAbs - 1) (show 0 < maxPower by decide)
    rw [Nat.mul_comm]
    omega
  · exact proper_of_scale10? hpower h

lemma proper_of_doubleLiteral {negative : Bool} {significand : Nat} {e : Int}
    (h : doubleLiteral negative significand e = .number n) : n.Proper := by
  rw [doubleLiteral] at h
  cases hx : scaled? (ofNat negative significand) e with
  | none =>
    rw [hx] at h
    cases h
  | some x =>
    rw [hx] at h
    obtain rfl := Literal.number.inj h
    exact proper_of_scaled? (proper_ofNat negative significand) hx

/-- **The numbers of documents are proper.** -/
theorem proper_of_readLiteral? {cs rest : List Char} (h : readLiteral? cs = some (.number n, rest)) :
    n.Proper := by
  unfold readLiteral? at h
  simp only [Option.bind_eq_bind] at h
  -- With a sign and without one.
  split at h
  all_goals
    rw [ite_eq_iff] at h
    obtain ⟨-, h⟩ | ⟨-, h⟩ := h
    · cases h
    split at h
    · split_ifs at h
      obtain ⟨⟨e, after⟩, -, h⟩ := Option.bind_eq_some_iff.1 h
      exact proper_of_doubleLiteral (Prod.mk.inj (Option.some.inj h)).1
    · obtain ⟨⟨e, after⟩, -, h⟩ := Option.bind_eq_some_iff.1 h
      simp only at h
      split_ifs at h
      all_goals have h := (Prod.mk.inj (Option.some.inj h)).1
      · exact proper_of_doubleLiteral h
      all_goals obtain rfl := Literal.number.inj h
      all_goals first | exact proper_ofNat _ _ | trivial

end Number

namespace Yaml

lemma proper_of_decimal? {negative : Bool} {cs : List Char} {x : Binary64}
    (h : decimal? negative cs = some x) : x.Proper := by
  unfold decimal? at h
  simp only [Option.bind_eq_bind] at h
  obtain ⟨⟨digits, power⟩, -, h⟩ := Option.bind_eq_some_iff.1 h
  split at h
  all_goals
    obtain ⟨e, -, h⟩ := Option.bind_eq_some_iff.1 h
    split_ifs at h
    · exact Option.some.inj h ▸ Binary64.proper_zero negative
    · exact Binary64.proper_of_ofDecimal? h

/-- **The numbers of plain scalars are proper.** -/
theorem proper_of_number? {s : String} {n : Number} (h : number? s = some (.number n)) :
    n.Proper := by
  rw [number?] at h
  cases hwhole : (wholeNumber? s.toList).bind wholeScalar? with
  | some v =>
    rw [hwhole] at h
    obtain rfl := Option.some.inj h
    obtain ⟨m, -, hm⟩ := Option.bind_eq_some_iff.1 hwhole
    rw [wholeScalar?] at hm
    split_ifs at hm
    · obtain rfl := Scalar.number.inj (Option.some.inj hm)
      trivial
    · cases hm
  | none =>
    simp only [hwhole, doubleNumber?] at h
    split_ifs at h
    · cases h
    · obtain ⟨x, hx, heq⟩ := Option.map_eq_some_iff.1 h
      obtain rfl := Scalar.number.inj heq
      split at hx
      all_goals exact proper_of_decimal? hx

end Yaml

end ApiLowering
