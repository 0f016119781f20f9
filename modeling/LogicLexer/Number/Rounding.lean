import LogicLexer.Number.Binary64

/-!
# Rounding a fraction to double precision

`Binary64.roundMagnitude n d` is the magnitude nearest to `n / d`, and of two that are equally near
the one whose last bit is zero. The fraction is measured in grains of `2 ^ -1074`: its whole part
tells how many low bits have to go, and one exact division with remainder decides which way. A
carry out of the significand runs into the exponent field, which is where it belongs, and what
runs past the largest finite number is an infinity.
-/

namespace LogicLexer

/-- The whole number nearest to `n / d`; a tie goes to the even one. -/
def roundHalfEven (n d : Nat) : Nat :=
  let q := n / d
  let r := n % d
  if 2 * r < d then q
  else if d < 2 * r then q + 1
  else q + q % 2

namespace Binary64

/-- The number of low bits that a whole number of grains has too many for a significand. -/
def excessBits (wholeGrains : Nat) : Nat :=
  wholeGrains.log2 - 52

/-- The magnitude nearest to the fraction `n / d`. -/
def roundMagnitude (n d : Nat) : Nat :=
  let excess := excessBits ((n <<< 1074) / d)
  min (excess * leadingBit + roundHalfEven (n <<< 1074) (d <<< excess)) infinity

end Binary64

/-- A quotient without remainder is exact. -/
theorem roundHalfEven_mul (q : Nat) {d : Nat} (h : 0 < d) : roundHalfEven (q * d) d = q := by
  simp [roundHalfEven, Nat.mul_div_cancel _ h, h]

end LogicLexer
