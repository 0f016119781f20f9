import LogicLexer.Proofs.Number.Decimal
import LogicLexer.Proofs.Number.Nearest

/-!
# Which numbers are written out in full

A number other than zero is written with a power of ten unless its absolute value is at least
`0.0001` and less than `10 ^ 16` (`isPositional_shortest_iff`). The text of a number is made from
its shortest decimal, which need not have the same value, so the two limits are compared with the
decimal first: where the point stands tells between which powers of ten the decimal lies
(`Decimal.point_le_iff`). As rounding keeps the order, the decimal lies below a power of ten just
if the number lies below what that power is rounded to, unless the number is the rounded power
itself, and then the decimal is seen (`point_shortest_le_iff`).
-/

namespace LogicLexer

namespace Binary64

/-- The point of a decimal stands at a place or in front of it just if the decimal is less than this
power of ten. -/
theorem Decimal.point_le_iff {d : Decimal} (h : d.digits ≠ 0) (a b : ℕ) :
    d.point ≤ (b : ℤ) - a ↔ d.digits * 10 ^ (d.exponent + a) < 10 ^ (d.places + b) := by
  have hplaces : d.point ≤ (b : ℤ) - a ↔
      (Nat.toDigits 10 d.digits).length + (d.exponent + a) ≤ d.places + b := by
    unfold point digitChars
    omega
  have hpos : 0 < (Nat.toDigits 10 d.digits).length := Nat.length_toDigits_pos
  rw [hplaces]
  rcases Nat.lt_or_ge (d.exponent + a) (d.places + b) with hlt | hge
  · obtain ⟨k, hk⟩ := Nat.exists_eq_add_of_lt hlt
    have hunit : 0 < 10 ^ (d.exponent + a) := Nat.pow_pos (by decide)
    have hpower : 10 ^ (d.places + b) = 10 ^ (k + 1) * 10 ^ (d.exponent + a) := by
      rw [← Nat.pow_add, hk]
      congr 1
      omega
    rw [hpower, Nat.mul_lt_mul_right hunit,
      ← Nat.length_toDigits_le_iff (b := 10) (by decide) (Nat.succ_pos k)]
    omega
  · -- The decimal is a whole number of times the power.
    have hle : 10 ^ (d.places + b) ≤ d.digits * 10 ^ (d.exponent + a) :=
      (Nat.pow_le_pow_right (by decide) hge).trans
        (Nat.le_mul_of_pos_left _ (Nat.pos_of_ne_zero h))
    omega

/-- The shortest decimal of a magnitude has a digit other than zero if the magnitude is not zero. -/
theorem digits_shortest_ne_zero {m : ℕ} (h : m < infinity) (hm : m ≠ 0) :
    (shortest m).digits ≠ 0 := by
  intro hzero
  have hmagnitude := magnitude_shortest h
  have hvalue : ((0 : ℕ) : ℚ) / (10 ^ (shortest m).places : ℕ) ≤ 2 ^ (-1075 : ℤ) := by
    rw [Nat.cast_zero, zero_div]
    positivity
  rw [Decimal.magnitude, hzero, Nat.zero_mul] at hmagnitude
  exact hm (hmagnitude.symm.trans (roundMagnitude_eq_zero (Nat.pow_pos (by decide)) hvalue))

/-- The shortest decimal of a number lies below a power of ten just if the number lies below what
that power is rounded to, provided that the rounded power has a decimal which does not. -/
theorem point_shortest_le_iff {m a b : ℕ} (h : m < infinity) (hm : m ≠ 0)
    (hpower : ¬ (shortest (roundMagnitude (10 ^ b) (10 ^ a))).point ≤ (b : ℤ) - a) :
    (shortest m).point ≤ (b : ℤ) - a ↔ m < roundMagnitude (10 ^ b) (10 ^ a) := by
  have hmagnitude : roundMagnitude ((shortest m).digits * 10 ^ (shortest m).exponent)
      (10 ^ (shortest m).places) = m := magnitude_shortest h
  have hplaces : 0 < 10 ^ (shortest m).places := Nat.pow_pos (by decide)
  have hunit : 0 < 10 ^ a := Nat.pow_pos (by decide)
  have hpoint := Decimal.point_le_iff (digits_shortest_ne_zero h hm) a b
  -- The decimal is compared with the power by what both are rounded to.
  rw [Nat.pow_add, Nat.pow_add, ← Nat.mul_assoc, Nat.mul_comm (10 ^ (shortest m).places)] at hpoint
  constructor
  · intro hbelow
    have hle := roundMagnitude_mono hplaces hunit (Nat.le_of_lt (hpoint.1 hbelow))
    rw [hmagnitude] at hle
    refine Nat.lt_of_le_of_ne hle ?_
    rintro rfl
    exact hpower hbelow
  · intro hlt
    refine hpoint.2 (Nat.lt_of_not_le fun habove => ?_)
    have hle := roundMagnitude_mono hunit hplaces habove
    rw [hmagnitude] at hle
    exact absurd hlt (Nat.not_lt.2 hle)

/-- The magnitude of `10 ^ 16`, which is exact. -/
theorem absolute_ten_pow : absolute (roundMagnitude (10 ^ 16) (10 ^ 0)) = 10 ^ 16 := by
  have hround : roundMagnitude (10 ^ 16) (10 ^ 0) = 0x4341C37937E08000 := by decide +kernel
  have hparts : 0x4341C37937E08000 / leadingBit = 1076 ∧
      0x4341C37937E08000 % leadingBit = 0x1C37937E08000 := by decide
  rw [hround]
  unfold absolute
  dsimp only
  rw [hparts.1, hparts.2]
  norm_num

/-- The magnitude of `0.0001` is a little greater, and the one below it is less. -/
theorem absolute_tenThousandth :
    1 / 10 ^ 4 ≤ absolute (roundMagnitude (10 ^ 0) (10 ^ 4)) ∧
      absolute (roundMagnitude (10 ^ 0) (10 ^ 4) - 1) < 1 / 10 ^ 4 := by
  have hround : roundMagnitude (10 ^ 0) (10 ^ 4) = 0x3F1A36E2EB1C432D := by decide +kernel
  have hparts : 0x3F1A36E2EB1C432D / leadingBit = 1009 ∧
      0x3F1A36E2EB1C432D % leadingBit = 0xA36E2EB1C432D := by decide
  have hparts_pred : (0x3F1A36E2EB1C432D - 1) / leadingBit = 1009 ∧
      (0x3F1A36E2EB1C432D - 1) % leadingBit = 0xA36E2EB1C432C := by decide
  rw [hround]
  unfold absolute
  dsimp only
  rw [hparts.1, hparts.2, hparts_pred.1, hparts_pred.2]
  norm_num

/-- A number is written out in full just if it is at least `0.0001` and less than `10 ^ 16`. -/
theorem isPositional_shortest_iff {m : ℕ} (h : m < infinity) (hm : m ≠ 0) :
    isPositional (shortest m).point = true ↔
      1 / 10 ^ 4 ≤ absolute m ∧ absolute m < 10 ^ 16 := by
  have hupper := point_shortest_le_iff (a := 0) (b := 16) h hm (by decide +kernel)
  have hlower := point_shortest_le_iff (a := 4) (b := 0) h hm (by decide +kernel)
  have hbelow : absolute m < 10 ^ 16 ↔ m < roundMagnitude (10 ^ 16) (10 ^ 0) := by
    rw [← absolute_ten_pow]
    exact strictMono_absolute.lt_iff_lt
  have habove : 1 / 10 ^ 4 ≤ absolute m ↔ roundMagnitude (10 ^ 0) (10 ^ 4) ≤ m := by
    obtain ⟨hle, hlt⟩ := absolute_tenThousandth
    constructor
    · intro hm_above
      refine Nat.le_of_not_lt fun hless => ?_
      have hpred := strictMono_absolute.monotone (Nat.le_sub_one_of_lt hless)
      exact absurd hm_above (not_le.2 (lt_of_le_of_lt hpred hlt))
    · exact fun hge => hle.trans (strictMono_absolute.monotone hge)
  rw [hbelow, habove, ← hupper, ← Nat.not_lt, ← hlower]
  unfold isPositional
  rw [Bool.and_eq_true, decide_eq_true_iff, decide_eq_true_iff]
  omega

end Binary64

end LogicLexer
