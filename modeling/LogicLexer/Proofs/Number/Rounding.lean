import LogicLexer.Number.Decimal
import Mathlib.Tactic.Ring

/-!
# Rounding is a matter of the quotient

`Binary64.roundMagnitude` gives the same magnitude for all fractions of one value
(`roundMagnitude_eq_of_mul_eq`), never one beyond the infinities (`roundMagnitude_le_infinity`), and
for a finite magnitude that is written out in grains the magnitude itself
(`roundMagnitude_grains`). So it is enough to know the value of a decimal to know what it is read
as.
-/

namespace LogicLexer

/-- A common factor has no part in rounding a quotient. -/
theorem roundHalfEven_mul_right (n d : Nat) {k : Nat} (hk : 0 < k) :
    roundHalfEven (n * k) (d * k) = roundHalfEven n d := by
  have hless : 2 * (n % d * k) < d * k ↔ 2 * (n % d) < d := by
    rw [← Nat.mul_assoc]
    exact Nat.mul_lt_mul_right hk
  have hmore : d * k < 2 * (n % d * k) ↔ d < 2 * (n % d) := by
    rw [← Nat.mul_assoc]
    exact Nat.mul_lt_mul_right hk
  simp only [roundHalfEven, Nat.mul_div_mul_right _ _ hk, Nat.mul_mod_mul_right, hless, hmore]

/-- Shifting keeps a number from being zero. -/
theorem shiftLeft_pos {n : Nat} (h : 0 < n) (count : Nat) : 0 < n <<< count := by
  rw [Nat.shiftLeft_eq]
  exact Nat.mul_pos h (Nat.two_pow_pos count)

/-- Shifting a number is multiplying it by a shifted one. -/
theorem shiftLeft_eq_mul (n count : Nat) : n <<< count = n * 1 <<< count := by
  rw [Nat.shiftLeft_eq, Nat.shiftLeft_eq, Nat.one_mul]

namespace Binary64

/-- A common factor of numerator and denominator has no part in rounding. -/
theorem roundMagnitude_mul_right (n d : Nat) {k : Nat} (hk : 0 < k) :
    roundMagnitude (n * k) (d * k) = roundMagnitude n d := by
  have hn : (n * k) <<< 1074 = n <<< 1074 * k := by
    rw [Nat.shiftLeft_eq, Nat.shiftLeft_eq, Nat.mul_right_comm]
  have hd : ∀ excess, (d * k) <<< excess = d <<< excess * k := fun excess => by
    rw [Nat.shiftLeft_eq, Nat.shiftLeft_eq, Nat.mul_right_comm]
  simp only [roundMagnitude, hn, hd, Nat.mul_div_mul_right _ _ hk, roundHalfEven_mul_right _ _ hk]

/-- Fractions of the same value are rounded to the same magnitude. -/
theorem roundMagnitude_eq_of_mul_eq {n d n' d' : Nat} (hd : 0 < d) (hd' : 0 < d')
    (h : n * d' = n' * d) : roundMagnitude n d = roundMagnitude n' d' := by
  calc roundMagnitude n d
      = roundMagnitude (n * d') (d * d') := (roundMagnitude_mul_right n d hd').symm
    _ = roundMagnitude (n' * d) (d' * d) := by rw [h, Nat.mul_comm d d']
    _ = roundMagnitude n' d' := roundMagnitude_mul_right n' d' hd

/-- Nothing is rounded to a magnitude beyond the infinities. -/
theorem roundMagnitude_le_infinity (n d : Nat) : roundMagnitude n d ≤ infinity :=
  Nat.min_le_right _ _

/-- A magnitude is put together from its scale and its significand. -/
theorem scale_mul_add_significand (m : Nat) : scale m * leadingBit + significand m = m := by
  unfold scale significand leadingBit
  split <;> omega

/-- A finite magnitude has just the low bits too many for a significand that its scale tells. -/
theorem excessBits_grains (m : Nat) : excessBits (grains m) = scale m := by
  have hlt := significand_lt m
  unfold excessBits grains
  by_cases hsmall : m < leadingBit
  · -- Without a leading bit nothing is shifted, and the significand is the magnitude.
    have hscale : scale m = 0 := by
      unfold scale
      rw [Nat.div_eq_of_lt hsmall]
    have hsignificand : significand m = m := if_pos hsmall
    rw [hscale, hsignificand, Nat.shiftLeft_zero]
    rcases Nat.eq_zero_or_pos m with rfl | hpos
    · rfl
    · have hlog : m.log2 < 52 := (Nat.log2_lt (by omega)).2 hsmall
      omega
  · have hge : leadingBit ≤ significand m := by
      rw [significand, if_neg hsmall]
      exact Nat.le_add_right _ _
    have hpower : 0 < 2 ^ scale m := Nat.two_pow_pos _
    have hne : significand m * 2 ^ scale m ≠ 0 := by
      have : 0 < leadingBit := by decide
      exact Nat.mul_ne_zero (by omega) (by omega)
    have hlog : (significand m * 2 ^ scale m).log2 = 52 + scale m := by
      rw [Nat.log2_eq_iff hne]
      constructor
      · rw [Nat.pow_add]
        exact Nat.mul_le_mul_right _ hge
      · rw [Nat.add_right_comm, Nat.pow_add]
        exact Nat.mul_lt_mul_of_pos_right hlt hpower
    rw [Nat.shiftLeft_eq, hlog]
    omega

/-- A finite magnitude is what its grains are rounded to. -/
theorem roundMagnitude_grains {m : Nat} (h : m < infinity) :
    roundMagnitude (grains m) (1 <<< 1074) = m := by
  have hone := shiftLeft_pos Nat.one_pos 1074
  have hunit := shiftLeft_eq_mul (grains m) 1074
  have hquotient : ∀ unit, grains m * unit = significand m * unit <<< scale m := fun unit => by
    rw [grains, Nat.shiftLeft_eq, Nat.shiftLeft_eq]
    ring
  unfold roundMagnitude
  dsimp only
  rw [hunit, Nat.mul_div_cancel _ hone, excessBits_grains, hquotient,
    roundHalfEven_mul _ (shiftLeft_pos hone _), scale_mul_add_significand]
  exact Nat.min_eq_left (Nat.le_of_lt h)

/-- A number of a sign and a rounded magnitude is a number. -/
theorem isNaN_ofMagnitude {m : Nat} (h : m ≤ infinity) (negative : Bool) :
    (ofMagnitude negative m).isNaN = false := by
  have hlt : m < signBit := Nat.lt_of_le_of_lt h (by decide)
  rw [isNaN, (magnitude_ofMagnitude negative hlt).1]
  simpa using h

/-- Adding a power of two to a smaller number flips a bit. -/
theorem two_pow_add_eq_xor {m i : Nat} (h : m < 2 ^ i) : 2 ^ i + m = m ^^^ 2 ^ i := by
  have hor := Nat.two_pow_add_eq_or_of_lt h 1
  rw [Nat.mul_one] at hor
  rw [hor]
  apply Nat.eq_of_testBit_eq
  intro k
  rw [Nat.testBit_xor, Nat.testBit_or, Nat.testBit_two_pow]
  by_cases hk : i = k
  · subst hk
    simp [Nat.testBit_lt_two_pow h]
  · simp [hk]

/-- The sign bit alone tells a negative number from the positive one of the same magnitude. -/
theorem bits_ofMagnitude_true {m : Nat} (h : m < signBit) :
    (ofMagnitude true m).bits = (ofMagnitude false m).bits ^^^ 0x8000000000000000 := by
  have hsign : signBit = 2 ^ 63 := by decide
  have hlt : m < UInt64.size := Nat.lt_trans h (by decide)
  have hsum : signBit + m < UInt64.size := by
    have : UInt64.size = signBit + signBit := by decide
    omega
  rw [← UInt64.toNat_inj, UInt64.toNat_xor]
  show (UInt64.ofNat (signBit + m)).toNat = (UInt64.ofNat (0 + m)).toNat ^^^ signBit
  rw [Nat.zero_add, UInt64.toNat_ofNat_of_lt' hlt, UInt64.toNat_ofNat_of_lt' hsum, hsign]
  exact two_pow_add_eq_xor (hsign ▸ h)

end Binary64

end LogicLexer
