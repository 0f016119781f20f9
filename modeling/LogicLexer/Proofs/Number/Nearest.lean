import LogicLexer.Proofs.Number.Rounding
import Mathlib.Algebra.Order.Field.Power
import Mathlib.Data.EReal.Operations
import Mathlib.Tactic.Linarith
import Mathlib.Tactic.LinearCombination
import Mathlib.Tactic.NormNum
import Mathlib.Tactic.Positivity
import Mathlib.Tactic.FieldSimp

/-!
# Rounding gives the nearest number

A fraction is rounded to a magnitude or below it just if it lies below the middle between this
magnitude and the next, or in the middle and the magnitude is even (`roundMagnitude_le_iff`). All
else is read off this one equivalence: greater fractions are rounded to no smaller magnitudes
(`roundMagnitude_mono`), a signed fraction is rounded as the interchange format asks for
(`isNearest_ofMagnitude`), with an infinity from `overflowLimit` on
(`roundMagnitude_lt_infinity_iff`), and half a grain or less is rounded to zero
(`roundMagnitude_eq_zero`).

The equivalence holds since the fraction lies between two neighbours: the magnitude that its whole
quotient makes, and the next. That these are neighbours rests on `grains_add`, by which the carry
out of a significand runs into the exponent field.
-/

namespace LogicLexer

/-- A quotient is rounded to a number or below it just if it is below the middle between this number
and the next, or in the middle and the number is even. -/
theorem roundHalfEven_le_iff (n m : Nat) {d : Nat} (hd : 0 < d) :
    roundHalfEven n d ≤ m ↔ 2 * n < (2 * m + 1) * d ∨ 2 * n = (2 * m + 1) * d ∧ m % 2 = 0 := by
  have hdiv : d * (n / d) + n % d = n := Nat.div_add_mod n d
  have hmod : n % d < d := Nat.mod_lt _ hd
  have hmiddle : (2 * m + 1) * d = 2 * (d * m) + d := by ring
  rw [hmiddle]
  unfold roundHalfEven
  dsimp only
  rcases Nat.lt_trichotomy m (n / d) with hless | heq | hmore
  · have hproduct : d * m + d ≤ d * (n / d) := Nat.mul_le_mul_left d hless
    split_ifs <;> omega
  · rw [heq]
    split_ifs <;> omega
  · have hproduct : d * (n / d) + d ≤ d * m := Nat.mul_le_mul_left d hmore
    split_ifs <;> omega

/-- A quotient is rounded down or up. -/
theorem roundHalfEven_bounds (n d : Nat) :
    n / d ≤ roundHalfEven n d ∧ roundHalfEven n d ≤ n / d + 1 := by
  unfold roundHalfEven
  dsimp only
  split_ifs <;> omega

namespace Binary64

/-- Magnitudes are put together from a scale and a significand, which may be one too large. -/
theorem grains_add {e k : Nat} (hleading : e = 0 ∨ leadingBit ≤ k) (hk : k ≤ 2 * leadingBit) :
    grains (e * leadingBit + k) = k <<< e := by
  unfold grains
  rcases Nat.lt_or_eq_of_le hk with hlt | rfl
  · have hscale : scale (e * leadingBit + k) = e := by
      unfold scale leadingBit at *
      omega
    have hsignificand : significand (e * leadingBit + k) = k := by
      unfold significand leadingBit at *
      split <;> omega
    rw [hscale, hsignificand]
  · have hscale : scale (e * leadingBit + 2 * leadingBit) = e + 1 := by
      unfold scale leadingBit
      omega
    have hsignificand : significand (e * leadingBit + 2 * leadingBit) = leadingBit := by
      unfold significand leadingBit
      split <;> omega
    rw [hscale, hsignificand, Nat.shiftLeft_eq, Nat.shiftLeft_eq, Nat.pow_succ]
    ring

/-- From one magnitude to the next the grains grow by what the last bit counts. -/
theorem grains_succ (m : Nat) : grains (m + 1) = grains m + 1 <<< scale m := by
  have hlt := significand_lt m
  have hparts := scale_mul_add_significand m
  have hleading : scale m = 0 ∨ leadingBit ≤ significand m + 1 := by
    unfold scale significand leadingBit
    split <;> omega
  have hnext : m + 1 = scale m * leadingBit + (significand m + 1) := by omega
  rw [hnext, grains_add hleading hlt, grains, Nat.shiftLeft_eq, Nat.shiftLeft_eq, Nat.shiftLeft_eq]
  ring

/-- The order of magnitudes is the order of absolute values. -/
theorem strictMono_grains : StrictMono grains := by
  refine strictMono_nat_of_lt_succ fun m => ?_
  rw [grains_succ]
  exact Nat.lt_add_of_pos_right (shiftLeft_pos Nat.one_pos _)

/-- Without its excess bits, a number of grains fits into a significand, and has a leading bit
unless nothing is in excess. -/
theorem quotient_bounds (u d : Nat) :
    (excessBits (u / d) = 0 ∨ leadingBit ≤ u / d <<< excessBits (u / d)) ∧
      u / d <<< excessBits (u / d) < 2 * leadingBit := by
  rw [Nat.shiftLeft_eq, ← Nat.div_div_eq_div_mul]
  generalize u / d = w
  have hpower : 0 < 2 ^ excessBits w := Nat.two_pow_pos _
  rw [Nat.div_lt_iff_lt_mul hpower, Nat.le_div_iff_mul_le hpower]
  have hbit : leadingBit = 2 ^ 52 := by decide
  have hdouble : 2 * leadingBit = 2 ^ 53 := by decide
  rw [hdouble, hbit, ← Nat.pow_add, ← Nat.pow_add]
  constructor
  · by_cases hzero : excessBits w = 0
    · exact Or.inl hzero
    · have hw : w ≠ 0 := by
        rintro rfl
        exact hzero rfl
      have hlog : w.log2 = 52 + excessBits w := by
        unfold excessBits at *
        omega
      exact Or.inr (hlog ▸ Nat.log2_self_le hw)
  · calc w < 2 ^ (w.log2 + 1) := Nat.lt_log2_self
      _ ≤ 2 ^ (53 + excessBits w) := by
        refine Nat.pow_le_pow_right (by decide) ?_
        unfold excessBits
        omega

/-- A magnitude and the next one, over a denominator, are a quotient of units and one unit more. -/
theorem grains_mul {e k : Nat} (hleading : e = 0 ∨ leadingBit ≤ k) (hk : k < 2 * leadingBit)
    (d : Nat) :
    grains (e * leadingBit + k) * d = d <<< e * k ∧
      grains (e * leadingBit + k + 1) * d = d <<< e * k + d <<< e := by
  have hnext := grains_add (hleading.imp_right Nat.le_succ_of_le) hk
  rw [Nat.add_assoc, grains_add hleading (Nat.le_of_lt hk), hnext, Nat.succ_eq_add_one]
  simp only [Nat.shiftLeft_eq]
  constructor <;> ring

/-- A fraction is rounded to a finite magnitude or below it just if it is below the middle between
this magnitude and the next, or in the middle and the magnitude is even. -/
theorem roundMagnitude_le_iff (n : Nat) {d m : Nat} (hd : 0 < d) (hm : m < infinity) :
    roundMagnitude n d ≤ m ↔
      2 * n <<< 1074 < (grains m + grains (m + 1)) * d ∨
        2 * n <<< 1074 = (grains m + grains (m + 1)) * d ∧ m % 2 = 0 := by
  have hunlimited : roundMagnitude n d ≤ m ↔ excessBits ((n <<< 1074) / d) * leadingBit +
      roundHalfEven (n <<< 1074) (d <<< excessBits ((n <<< 1074) / d)) ≤ m := by
    unfold roundMagnitude
    dsimp only
    omega
  rw [hunlimited]
  generalize n <<< 1074 = u
  obtain ⟨hleading, hlt⟩ := quotient_bounds u d
  generalize excessBits (u / d) = e at *
  have hunit : 0 < d <<< e := shiftLeft_pos hd e
  obtain ⟨hdown, hup⟩ := roundHalfEven_bounds u (d <<< e)
  have hround := roundHalfEven_le_iff u (u / d <<< e) hunit
  have hdiv : d <<< e * (u / d <<< e) + u % d <<< e = u := Nat.div_add_mod u _
  have hmod : u % d <<< e < d <<< e := Nat.mod_lt _ hunit
  -- The fraction lies between the magnitude with its whole quotient and the next one.
  obtain ⟨hbelow, habove⟩ := grains_mul hleading hlt d
  generalize u / d <<< e = k at *
  generalize roundHalfEven u (d <<< e) = r at *
  rcases Nat.lt_trichotomy m (e * leadingBit + k) with hless | rfl | hmore
  · have hm_below := Nat.mul_lt_mul_of_pos_right (strictMono_grains hless) hd
    have hnext_below : grains (m + 1) * d ≤ grains (e * leadingBit + k) * d :=
      Nat.mul_le_mul_right d (strictMono_grains.monotone hless)
    rw [Nat.add_mul]
    omega
  · have hparity : (e * leadingBit + k) % 2 = k % 2 := by
      unfold leadingBit
      omega
    have hmiddle : (grains (e * leadingBit + k) + grains (e * leadingBit + k + 1)) * d =
        (2 * k + 1) * d <<< e := by
      rw [Nat.add_mul, hbelow, habove]
      ring
    rw [hmiddle, hparity, ← hround]
    omega
  · have hm_above : grains (e * leadingBit + k + 1) * d ≤ grains m * d :=
      Nat.mul_le_mul_right d (strictMono_grains.monotone hmore)
    have hnext_above := Nat.mul_lt_mul_of_pos_right (strictMono_grains (Nat.lt_add_one m)) hd
    rw [Nat.add_mul]
    omega

/-- A fraction that is no greater is rounded to no greater magnitude. -/
theorem roundMagnitude_mono {n d n' d' : Nat} (hd : 0 < d) (hd' : 0 < d')
    (h : n * d' ≤ n' * d) : roundMagnitude n d ≤ roundMagnitude n' d' := by
  rcases Nat.lt_or_eq_of_le (roundMagnitude_le_infinity n' d') with hfinite | hinfinite
  · rw [roundMagnitude_le_iff n hd hfinite]
    have hself := (roundMagnitude_le_iff n' hd' hfinite).1 (Nat.le_refl _)
    generalize roundMagnitude n' d' = m at *
    generalize grains m + grains (m + 1) = s at *
    rw [shiftLeft_eq_mul n]
    rw [shiftLeft_eq_mul n'] at hself
    generalize 1 <<< 1074 = unit at *
    -- Both sides are compared over the common denominator.
    have hle : 2 * (n * unit) * d' ≤ 2 * (n' * unit) * d := by
      calc 2 * (n * unit) * d' = 2 * unit * (n * d') := by ring
        _ ≤ 2 * unit * (n' * d) := Nat.mul_le_mul_left _ h
        _ = 2 * (n' * unit) * d := by ring
    have hd_eq : s * d' * d = s * d * d' := Nat.mul_right_comm s d' d
    rcases hself with hless | ⟨htie, heven⟩
    · have hlt := Nat.mul_lt_mul_of_pos_right hless hd
      exact Or.inl (Nat.lt_of_mul_lt_mul_right (by omega : 2 * (n * unit) * d' < s * d * d'))
    · have hequal : 2 * (n' * unit) * d = s * d' * d := by rw [htie]
      rcases Nat.lt_or_eq_of_le hle with hlt | heq
      · exact Or.inl (Nat.lt_of_mul_lt_mul_right (by omega : 2 * (n * unit) * d' < s * d * d'))
      · exact Or.inr ⟨Nat.eq_of_mul_eq_mul_right hd' (by omega), heven⟩
  · rw [hinfinite]
    exact roundMagnitude_le_infinity n d

/-! ## Exact values -/

/-- The exact value of a finite magnitude, by the fields of the interchange format. -/
def absolute (magnitude : Nat) : ℚ :=
  let exponent := magnitude / leadingBit
  let fraction := magnitude % leadingBit
  if exponent = 0 then fraction * 2 ^ (-1074 : ℤ)
  else (2 ^ 52 + fraction) * 2 ^ ((exponent : ℤ) - 1075)

/-- A value with a sign. -/
def signed (negative : Bool) (v : ℚ) : ℚ :=
  if negative then -v else v

/-- The exact value of a finite number. -/
def toRat (x : Binary64) : ℚ :=
  signed x.isNegative (absolute x.magnitude)

/-- The sign has no part in the absolute value. -/
theorem abs_signed (negative : Bool) {v : ℚ} (h : 0 ≤ v) : |signed negative v| = v := by
  cases negative
  · exact abs_of_nonneg h
  · exact (abs_neg v).trans (abs_of_nonneg h)

/-- Values of the same sign are as far apart as without it. -/
theorem abs_signed_sub (negative : Bool) (v w : ℚ) :
    |signed negative v - signed negative w| = |v - w| := by
  cases negative
  · rfl
  · unfold signed
    rw [if_pos rfl, if_pos rfl, neg_sub_neg, abs_sub_comm]

/-- A magnitude is a whole number of grains. -/
theorem absolute_eq (m : Nat) : absolute m = grains m * 2 ^ (-1074 : ℤ) := by
  unfold absolute grains
  dsimp only
  split
  case isTrue hzero =>
    have hsmall : m < leadingBit := (Nat.div_eq_zero_iff_lt (by decide)).1 hzero
    rw [significand, if_pos hsmall, scale, hzero, Nat.zero_sub, Nat.shiftLeft_zero,
      Nat.mod_eq_of_lt hsmall]
  case isFalse hpos =>
    have hlarge : ¬ m < leadingBit := fun h => hpos (Nat.div_eq_of_lt h)
    have hscale : (scale m : ℤ) = ((m / leadingBit : ℕ) : ℤ) - 1 :=
      Nat.cast_pred (Nat.pos_of_ne_zero hpos)
    have hsignificand : (significand m : ℚ) = 2 ^ 52 + (m % leadingBit : ℕ) := by
      rw [significand, if_neg hlarge]
      norm_num [leadingBit]
    have hpower : (2 : ℚ) ^ (((m / leadingBit : ℕ) : ℤ) - 1075) =
        2 ^ scale m * 2 ^ (-1074 : ℤ) := by
      rw [← zpow_natCast, hscale, ← zpow_add₀ two_ne_zero]
      congr 1
      ring
    rw [Nat.shiftLeft_eq, Nat.cast_mul, hsignificand, hpower, Nat.cast_pow, Nat.cast_ofNat,
      mul_assoc]

/-- The order of magnitudes is the order of exact values. -/
theorem strictMono_absolute : StrictMono absolute := by
  intro m m' h
  have hgrains : (grains m : ℚ) < grains m' := Nat.cast_lt.2 (strictMono_grains h)
  rw [absolute_eq, absolute_eq]
  exact mul_lt_mul_of_pos_right hgrains (by positivity)

/-- No magnitude is less than zero. -/
theorem absolute_nonneg (m : Nat) : 0 ≤ absolute m := by
  rw [absolute_eq]
  positivity

/-- The magnitude zero is zero. -/
theorem absolute_zero : absolute 0 = 0 := by
  rw [absolute_eq]
  simp [grains, significand, leadingBit]

/-- Without its sign, a number has the value of its magnitude. -/
theorem abs_toRat (x : Binary64) : |x.toRat| = absolute x.magnitude :=
  abs_signed _ (absolute_nonneg _)

/-- A unit that is shifted and divided again is one. -/
theorem cast_shiftLeft_mul_zpow (count : ℕ) :
    ((1 <<< count : ℕ) : ℚ) * 2 ^ (-(count : ℤ)) = 1 := by
  rw [Nat.shiftLeft_eq, one_mul, Nat.cast_pow, Nat.cast_ofNat, zpow_neg, zpow_natCast]
  exact mul_inv_cancel₀ (by positivity)

/-- A fraction is rounded to a finite magnitude or below it just if it is below the middle of the
exact values, or in the middle and the magnitude is even. -/
theorem roundMagnitude_le_iff_absolute (n : ℕ) {d m : ℕ} (hd : 0 < d) (hm : m < infinity) :
    roundMagnitude n d ≤ m ↔
      2 * ((n : ℚ) / d) < absolute m + absolute (m + 1) ∨
        2 * ((n : ℚ) / d) = absolute m + absolute (m + 1) ∧ m % 2 = 0 := by
  have hunit := cast_shiftLeft_mul_zpow 1074
  have hunit_pos : 0 < 1 <<< 1074 := shiftLeft_pos Nat.one_pos 1074
  rw [Nat.cast_ofNat] at hunit
  rw [roundMagnitude_le_iff n hd hm, shiftLeft_eq_mul, absolute_eq, absolute_eq]
  generalize 1 <<< 1074 = unit at *
  generalize (2 : ℚ) ^ (-1074 : ℤ) = grain at *
  -- Both sides are compared in grains, over the denominator.
  have hfactor : (0 : ℚ) < d * unit := by positivity
  have hleft : 2 * ((n : ℚ) / d) * (d * unit) = ((2 * (n * unit) : ℕ) : ℚ) := by
    push_cast
    field_simp
  have hright : ((grains m : ℚ) * grain + grains (m + 1) * grain) * (d * unit) =
      (((grains m + grains (m + 1)) * d : ℕ) : ℚ) := by
    push_cast
    linear_combination ((grains m + grains (m + 1)) * d : ℚ) * hunit
  rw [← @Nat.cast_lt ℚ, ← @Nat.cast_inj ℚ, ← hleft, ← hright, mul_lt_mul_iff_left₀ hfactor,
    mul_left_inj' hfactor.ne']

/-! ## The nearest number -/

/-- The nearer of two values is the one on the same side of their middle. -/
theorem abs_sub_le_abs_sub_iff {a b v : ℚ} (h : a < b) :
    (|a - v| ≤ |b - v| ↔ 2 * v ≤ a + b) ∧ (|b - v| ≤ |a - v| ↔ a + b ≤ 2 * v) := by
  have hpos : 0 < b - a := sub_pos.2 h
  have hleft : (b - v) ^ 2 - (a - v) ^ 2 = (b - a) * (a + b - 2 * v) := by ring
  have hright : (a - v) ^ 2 - (b - v) ^ 2 = (b - a) * (2 * v - (a + b)) := by ring
  constructor
  · rw [← sq_le_sq, ← sub_nonneg, hleft, mul_nonneg_iff_of_pos_left hpos, sub_nonneg]
  · rw [← sq_le_sq, ← sub_nonneg, hright, mul_nonneg_iff_of_pos_left hpos, sub_nonneg]

section

variable {n d : ℕ} (hd : 0 < d) (hfinite : roundMagnitude n d < infinity)
include hd hfinite

/-- A fraction is at most in the middle between the magnitude that it is rounded to and a greater
one, and there only if the magnitude is even. -/
theorem le_middle_above {m : ℕ} (hm : roundMagnitude n d < m) :
    2 * ((n : ℚ) / d) ≤ absolute (roundMagnitude n d) + absolute m ∧
      (2 * ((n : ℚ) / d) = absolute (roundMagnitude n d) + absolute m →
        roundMagnitude n d % 2 = 0) := by
  have hself := (roundMagnitude_le_iff_absolute n hd hfinite).1 le_rfl
  have hnext : absolute (roundMagnitude n d + 1) ≤ absolute m :=
    strictMono_absolute.monotone (Nat.succ_le_of_lt hm)
  rcases hself with hless | ⟨htie, heven⟩
  · exact ⟨by linarith, fun heq => by linarith⟩
  · exact ⟨by linarith, fun _ => heven⟩

/-- A fraction is at least in the middle between the magnitude that it is rounded to and a smaller
one, and there only if the magnitude is even. -/
theorem middle_below_le {m : ℕ} (hm : m < roundMagnitude n d) :
    absolute m + absolute (roundMagnitude n d) ≤ 2 * ((n : ℚ) / d) ∧
      (absolute m + absolute (roundMagnitude n d) = 2 * ((n : ℚ) / d) →
        roundMagnitude n d % 2 = 0) := by
  obtain ⟨k, hk⟩ : ∃ k, roundMagnitude n d = k + 1 := ⟨_, (Nat.succ_pred_eq_of_pos (by omega)).symm⟩
  have hbelow := mt (roundMagnitude_le_iff_absolute n (m := k) hd (by omega)).2 (by omega)
  rw [hk] at hm ⊢
  have hprevious : absolute m ≤ absolute k := strictMono_absolute.monotone (Nat.le_of_lt_succ hm)
  obtain ⟨hless, htie⟩ := not_or.1 hbelow
  refine ⟨by linarith, fun heq => ?_⟩
  have hodd : ¬ k % 2 = 0 := fun heven => htie ⟨by linarith, heven⟩
  omega

/-- No magnitude is nearer to a fraction than the one that it is rounded to, and if another one is
as near, this one is even. -/
theorem roundMagnitude_nearest (m : ℕ) :
    |absolute (roundMagnitude n d) - n / d| ≤ |absolute m - n / d| ∧
      (m ≠ roundMagnitude n d → |absolute m - n / d| ≤ |absolute (roundMagnitude n d) - n / d| →
        roundMagnitude n d % 2 = 0) := by
  rcases Nat.lt_trichotomy m (roundMagnitude n d) with hless | heq | hmore
  · obtain ⟨hle, htie⟩ := middle_below_le hd hfinite hless
    obtain ⟨hleft, hright⟩ := abs_sub_le_abs_sub_iff (v := n / d) (strictMono_absolute hless)
    exact ⟨hright.2 hle, fun _ h => htie (le_antisymm hle (hleft.1 h))⟩
  · exact ⟨by rw [heq], fun hne => absurd heq hne⟩
  · obtain ⟨hle, htie⟩ := le_middle_above hd hfinite hmore
    obtain ⟨hleft, hright⟩ := abs_sub_le_abs_sub_iff (v := n / d) (strictMono_absolute hmore)
    exact ⟨hleft.2 hle, fun _ h => htie (le_antisymm hle (hright.1 h))⟩

end

/-- The middle between the greatest finite number and the next power of two, from which on values
are too large. -/
def overflowLimit : ℚ :=
  2 ^ 1024 - 2 ^ 970

/-- The number that an exact value is rounded to by the rule of the interchange format: the nearest
one, and of two that are equally near the one whose last bit is zero. Too large a value is rounded
to an infinity. -/
structure IsNearest (q : ℚ) (x : Binary64) : Prop where
  /-- Too large a value makes the number infinite. -/
  overflow : overflowLimit ≤ |q| → x.magnitude = infinity
  /-- Any other value makes it finite. -/
  isFinite : |q| < overflowLimit → x.isFinite = true
  /-- No finite number is nearer. -/
  nearest : |q| < overflowLimit →
    ∀ y : Binary64, y.isFinite = true → |x.toRat - q| ≤ |y.toRat - q|
  /-- If a finite number of another value is as near, the last bit is zero. -/
  even : |q| < overflowLimit →
    ∀ y : Binary64, y.isFinite = true → y.toRat ≠ x.toRat → |y.toRat - q| = |x.toRat - q| →
      x.bits.toNat % 2 = 0

/-- The greatest finite number and the next power of two. -/
theorem absolute_infinity :
    absolute (infinity - 1) + absolute (infinity - 1 + 1) = 2 * overflowLimit := by
  have hlast : (infinity - 1) / leadingBit = 2046 ∧ (infinity - 1) % leadingBit = 2 ^ 52 - 1 := by
    decide
  have hnext : (infinity - 1 + 1) / leadingBit = 2047 ∧ (infinity - 1 + 1) % leadingBit = 0 := by
    decide
  have hlast_unit : (2 : ℚ) ^ (((2046 : ℕ) : ℤ) - 1075) = 2 ^ 970 * 2 :=
    (zpow_natCast 2 971).trans (pow_succ 2 970)
  have hnext_unit : (2 : ℚ) ^ (((2047 : ℕ) : ℤ) - 1075) = 2 ^ 970 * 2 ^ 2 :=
    (zpow_natCast 2 972).trans (pow_add 2 970 2)
  have hpower : (2 : ℚ) ^ 1024 = 2 ^ 970 * 2 ^ 54 := pow_add 2 970 54
  unfold absolute overflowLimit
  dsimp only
  rw [hlast.1, hlast.2, hnext.1, hnext.2, hlast_unit, hnext_unit, hpower]
  generalize (2 : ℚ) ^ 970 = unit
  norm_num
  ring

/-- A fraction is rounded to a finite magnitude just if it is below the limit. -/
theorem roundMagnitude_lt_infinity_iff (n : ℕ) {d : ℕ} (hd : 0 < d) :
    roundMagnitude n d < infinity ↔ (n : ℚ) / d < overflowLimit := by
  have hodd : ¬ (infinity - 1) % 2 = 0 := by decide
  have hpred : roundMagnitude n d < infinity ↔ roundMagnitude n d ≤ infinity - 1 :=
    Nat.lt_iff_le_pred (by decide)
  rw [hpred, roundMagnitude_le_iff_absolute n hd (by decide), absolute_infinity]
  constructor
  · rintro (hless | ⟨-, heven⟩)
    · linarith
    · exact absurd heven hodd
  · intro h
    exact Or.inl (by linarith)

/-- A fraction of at most half a grain is rounded to zero. -/
theorem roundMagnitude_eq_zero {n d : ℕ} (hd : 0 < d) (h : (n : ℚ) / d ≤ 2 ^ (-1075 : ℤ)) :
    roundMagnitude n d = 0 := by
  have hunit : absolute (0 + 1) = 2 ^ (-1074 : ℤ) := by
    rw [absolute_eq]
    simp [grains, significand, scale, leadingBit]
  have hhalf : (2 : ℚ) ^ (-1074 : ℤ) = 2 * 2 ^ (-1075 : ℤ) := zpow_one_add₀ two_ne_zero (-1075)
  refine Nat.le_zero.1 ((roundMagnitude_le_iff_absolute n hd (by decide)).2 ?_)
  rw [absolute_zero, zero_add, hunit, hhalf]
  rcases lt_or_eq_of_le h with hlt | heq
  · exact Or.inl (mul_lt_mul_of_pos_left hlt two_pos)
  · exact Or.inr ⟨by rw [heq], rfl⟩

/-- The value of a number of a sign and a magnitude. -/
theorem toRat_ofMagnitude (negative : Bool) {m : ℕ} (h : m < signBit) :
    (ofMagnitude negative m).toRat = signed negative (absolute m) := by
  obtain ⟨hmagnitude, hsign⟩ := magnitude_ofMagnitude negative h
  rw [toRat, hmagnitude, hsign]

/-- The last bit of a number is that of its magnitude. -/
theorem bits_ofMagnitude_mod_two (negative : Bool) (m : ℕ) :
    (ofMagnitude negative m).bits.toNat % 2 = m % 2 := by
  unfold ofMagnitude signBit
  rw [UInt64.toNat_ofNat']
  split <;> omega

/-- Numbers of one magnitude have different values only if they differ in sign, so only zero is as
far from both of them. -/
theorem eq_zero_of_abs_sub_eq {x y : Binary64} {q : ℚ} (h : y.magnitude = x.magnitude)
    (hne : y.toRat ≠ x.toRat) (hdistance : |y.toRat - q| = |x.toRat - q|) : q = 0 := by
  have habs : |y.toRat| = |x.toRat| := by rw [abs_toRat, abs_toRat, h]
  have hneg : y.toRat = -x.toRat := (abs_eq_abs.1 habs).resolve_left hne
  rw [hneg] at hne hdistance
  rcases abs_eq_abs.1 hdistance with heq | heq
  · exact absurd (by linarith) hne
  · linarith

/-- A signed fraction is rounded to the nearest number. -/
theorem isNearest_ofMagnitude (negative : Bool) (n : ℕ) {d : ℕ} (hd : 0 < d) :
    IsNearest (signed negative (n / d)) (ofMagnitude negative (roundMagnitude n d)) := by
  have hlt : roundMagnitude n d < signBit :=
    Nat.lt_of_le_of_lt (roundMagnitude_le_infinity n d) (by decide)
  have hmagnitude := (magnitude_ofMagnitude negative hlt).1
  have habs : |signed negative ((n : ℚ) / d)| = n / d := abs_signed negative (by positivity)
  have hfinite := roundMagnitude_lt_infinity_iff n hd
  have hdistance : |(ofMagnitude negative (roundMagnitude n d)).toRat - signed negative (n / d)| =
      |absolute (roundMagnitude n d) - n / d| := by
    rw [toRat_ofMagnitude negative hlt, abs_signed_sub]
  -- Without their signs two values are no farther apart.
  have hunsigned : ∀ y : Binary64,
      |absolute y.magnitude - n / d| ≤ |y.toRat - signed negative (n / d)| := by
    intro y
    have htriangle := abs_abs_sub_abs_le y.toRat (signed negative ((n : ℚ) / d))
    rwa [abs_toRat, habs] at htriangle
  rw [← habs] at hfinite
  constructor
  case overflow =>
    intro hlarge
    rw [hmagnitude]
    exact Nat.le_antisymm (roundMagnitude_le_infinity n d)
      (Nat.le_of_not_lt fun h => absurd (hfinite.1 h) (not_lt.2 hlarge))
  case isFinite =>
    intro hsmall
    rw [Binary64.isFinite, hmagnitude]
    exact decide_eq_true (hfinite.2 hsmall)
  case nearest =>
    intro hsmall y hy
    rw [hdistance]
    exact (roundMagnitude_nearest hd (hfinite.2 hsmall) y.magnitude).1.trans (hunsigned y)
  case even =>
    intro hsmall y hy hne heq
    rw [bits_ofMagnitude_mod_two]
    by_cases hsame : y.magnitude = roundMagnitude n d
    · -- The number is zero, as what is rounded is.
      have hzero := eq_zero_of_abs_sub_eq (hsame.trans hmagnitude.symm) hne heq
      rw [hzero, abs_zero] at habs
      rw [roundMagnitude_eq_zero hd (habs ▸ by positivity)]
    · refine (roundMagnitude_nearest hd (hfinite.2 hsmall) y.magnitude).2 hsame ?_
      rw [← hdistance, ← heq]
      exact hunsigned y

/-! ## The order of numbers -/

/-- The value of a magnitude, be it infinite. -/
noncomputable def extended (magnitude : ℕ) : EReal :=
  if magnitude < infinity then ((absolute magnitude : ℝ) : EReal) else ⊤

/-- The value of a number, be it infinite. -/
noncomputable def toEReal (x : Binary64) : EReal :=
  if x.isNegative then -extended x.magnitude else extended x.magnitude

/-- The order of magnitudes is the order of their values. -/
theorem extended_mono : Monotone extended := by
  intro m m' h
  unfold extended
  by_cases hfinite : m' < infinity
  · have hvalue : (absolute m : ℝ) ≤ absolute m' := Rat.cast_le.2 (strictMono_absolute.monotone h)
    rw [if_pos hfinite, if_pos (Nat.lt_of_le_of_lt h hfinite)]
    exact EReal.coe_le_coe_iff.2 hvalue
  · rw [if_neg hfinite]
    exact le_top

/-- Zero has the value zero. -/
theorem extended_zero : extended 0 = 0 := by
  rw [extended, if_pos (by decide), absolute_zero, Rat.cast_zero, EReal.coe_zero]

/-- No magnitude has a value below zero. -/
theorem extended_nonneg (m : ℕ) : 0 ≤ extended m :=
  extended_zero ▸ extended_mono (Nat.zero_le m)

/-- The value of a number of a sign and a magnitude. -/
theorem toEReal_ofMagnitude (negative : Bool) {m : ℕ} (h : m < signBit) :
    (ofMagnitude negative m).toEReal = if negative then -extended m else extended m := by
  obtain ⟨hmagnitude, hsign⟩ := magnitude_ofMagnitude negative h
  rw [toEReal, hmagnitude, hsign]

/-- A fraction that is no greater has no greater magnitude, and its value is no greater. -/
theorem extended_roundMagnitude_mono {n d n' d' : ℕ} (hd : 0 < d) (hd' : 0 < d')
    (h : (n : ℚ) / d ≤ n' / d') :
    extended (roundMagnitude n d) ≤ extended (roundMagnitude n' d') := by
  have hd_cast : (0 : ℚ) < d := Nat.cast_pos.2 hd
  have hd'_cast : (0 : ℚ) < d' := Nat.cast_pos.2 hd'
  rw [div_le_div_iff₀ hd_cast hd'_cast] at h
  exact extended_mono (roundMagnitude_mono hd hd' (by exact_mod_cast h))

/-- A signed fraction that is no greater is rounded to no greater number. -/
theorem toEReal_mono {negative negative' : Bool} {n d n' d' : ℕ} (hd : 0 < d) (hd' : 0 < d')
    (h : signed negative ((n : ℚ) / d) ≤ signed negative' ((n' : ℚ) / d')) :
    (ofMagnitude negative (roundMagnitude n d)).toEReal ≤
      (ofMagnitude negative' (roundMagnitude n' d')).toEReal := by
  have hlt : ∀ n d, roundMagnitude n d < signBit := fun n d =>
    Nat.lt_of_le_of_lt (roundMagnitude_le_infinity n d) (by decide)
  have hv : 0 ≤ (n : ℚ) / d := by positivity
  have hv' : 0 ≤ (n' : ℚ) / d' := by positivity
  unfold signed at h
  rw [toEReal_ofMagnitude _ (hlt n d), toEReal_ofMagnitude _ (hlt n' d')]
  cases negative <;> cases negative' <;> simp only [Bool.false_eq_true, reduceIte] at h ⊢
  case false.false => exact extended_roundMagnitude_mono hd hd' h
  case false.true =>
    -- Only zero is neither below zero nor above it.
    have hunit : (0 : ℚ) ≤ 2 ^ (-1075 : ℤ) := by positivity
    rw [roundMagnitude_eq_zero hd (by linarith), roundMagnitude_eq_zero hd' (by linarith),
      extended_zero, neg_zero]
  case true.false =>
    calc -extended (roundMagnitude n d) ≤ 0 := EReal.neg_le_zero.2 (extended_nonneg _)
      _ ≤ extended (roundMagnitude n' d') := extended_nonneg _
  case true.true =>
    exact EReal.neg_le_neg_iff.2 (extended_roundMagnitude_mono hd' hd (neg_le_neg_iff.1 h))

end Binary64

end LogicLexer
