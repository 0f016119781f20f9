/-!
# Double-precision numbers

A `Binary64` is the 64 bits of the double-precision interchange format: a sign bit, eleven bits of
exponent and 52 of fraction. Without its sign bit the word is the number's *magnitude*, and the
order of magnitudes is the order of absolute values. Every finite magnitude is a whole number of
*grains*, the least positive number, of which there are `2 ^ 1074` to one: it has as many as its
significand, which stays below `2 ^ 53` (`significand_lt`), shifted left by its scale.
-/

namespace LogicLexer

/-- A number in double precision. -/
structure Binary64 where
  /-- The word of the interchange format. -/
  bits : UInt64
deriving DecidableEq

namespace Binary64

/-- The highest bit of a word, `2 ^ 63`. -/
def signBit : Nat := 0x8000000000000000

/-- The lowest bit of the exponent field, `2 ^ 52`, and the leading bit of most significands. -/
def leadingBit : Nat := 0x10000000000000

/-- The magnitude of the infinities; all above it are not numbers. -/
def infinity : Nat := 0x7FF0000000000000

/-- The number of a sign and a magnitude. -/
def ofMagnitude (negative : Bool) (magnitude : Nat) : Binary64 :=
  ⟨UInt64.ofNat ((if negative then signBit else 0) + magnitude)⟩

/-- Whether the sign bit is set. -/
def isNegative (x : Binary64) : Bool :=
  signBit ≤ x.bits.toNat

/-- The word without its sign bit. -/
def magnitude (x : Binary64) : Nat :=
  x.bits.toNat % signBit

/-- Whether the word stands for no number. -/
def isNaN (x : Binary64) : Bool :=
  infinity < x.magnitude

/-- Whether the word is a finite number. -/
def isFinite (x : Binary64) : Bool :=
  x.magnitude < infinity

/-- The whole number that a finite magnitude scales by a power of two. A zero exponent field means
that the leading bit is missing. -/
def significand (magnitude : Nat) : Nat :=
  if magnitude < leadingBit then magnitude else leadingBit + magnitude % leadingBit

/-- The power of two by which a finite magnitude scales its significand, in grains. -/
def scale (magnitude : Nat) : Nat :=
  magnitude / leadingBit - 1

/-- A finite magnitude as a number of grains. -/
def grains (magnitude : Nat) : Nat :=
  significand magnitude <<< scale magnitude

/-- Equality as numbers: the two zeros are equal, and what is no number equals nothing. -/
def numEq (x y : Binary64) : Bool :=
  !x.isNaN && !y.isNaN && (x == y || (x.magnitude == 0 && y.magnitude == 0))

/-- A significand has at most one bit above the fraction. -/
theorem significand_lt (magnitude : Nat) : significand magnitude < 2 * leadingBit := by
  have : magnitude % leadingBit < leadingBit := Nat.mod_lt _ (by decide)
  unfold significand
  split <;> omega

/-- The sign bit is the highest. -/
theorem isNegative_iff (x : Binary64) : x.isNegative = true ↔ signBit ≤ x.bits.toNat :=
  decide_eq_true_iff

/-- The sign and the magnitude of a number are those that it was made from. -/
theorem magnitude_ofMagnitude (negative : Bool) {m : Nat} (h : m < signBit) :
    (ofMagnitude negative m).magnitude = m ∧ (ofMagnitude negative m).isNegative = negative := by
  simp only [signBit] at h
  cases negative <;> simp [ofMagnitude, magnitude, isNegative, signBit, UInt64.toNat_ofNat'] <;>
    omega

/-- A number is made from its sign and its magnitude. -/
theorem ofMagnitude_magnitude (x : Binary64) : ofMagnitude x.isNegative x.magnitude = x := by
  have hlt := x.bits.toNat_lt
  have hsign := x.isNegative_iff
  have hbits : (ofMagnitude x.isNegative x.magnitude).bits.toNat = x.bits.toNat := by
    simp only [signBit] at hsign
    simp only [ofMagnitude, magnitude, signBit, UInt64.toNat_ofNat']
    split
    · rename_i h
      have := hsign.1 h
      omega
    · rename_i h
      have := mt hsign.2 h
      omega
  exact congrArg mk (UInt64.toNat_inj.1 hbits)

/-- A number equals itself as a number exactly when it is one. -/
theorem numEq_self (x : Binary64) : x.numEq x = !x.isNaN := by
  cases h : x.isNaN <;> simp [numEq, h]

end Binary64

end LogicLexer
