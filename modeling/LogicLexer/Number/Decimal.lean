import LogicLexer.Number.Rounding

/-!
# Decimal texts of double-precision numbers

Reading and writing decimals. A decimal in plain form is rounded to the nearest double-precision
number. The other way, a number is written by the fewest digits that read back as the same number:
`nearestOn` tests the number's two neighbours on a decimal grid, and `shortest` takes the coarsest
grid where one of them passes. On the finest grid the number itself stands, so a last resort is
never an approximation.
-/

namespace LogicLexer

namespace Binary64

/-- The number of a sign, the digits before the point and those behind it. -/
def ofDecimal (negative : Bool) (whole fraction : List Char) : Binary64 :=
  ofMagnitude negative
    (roundMagnitude (Nat.ofDigitChars 10 (whole ++ fraction) 0) (Nat.pow 10 fraction.length))

/-- A whole number of units, each of them the given decimal fraction. -/
structure Decimal where
  /-- The digits, read as a whole number. -/
  digits : Nat
  /-- The power of ten that multiplies the digits. -/
  exponent : Nat
  /-- The power of ten that divides them. -/
  places : Nat
deriving DecidableEq

/-- The magnitude nearest to a decimal. -/
def Decimal.magnitude (d : Decimal) : Nat :=
  roundMagnitude (d.digits * Nat.pow 10 d.exponent) (Nat.pow 10 d.places)

/-- A finite magnitude, written out exactly: dividing by a power of two is multiplying by one of
five and moving the point. -/
def exactDecimal (magnitude : Nat) : Decimal :=
  let s := scale magnitude
  ⟨(significand magnitude <<< (s - 1074)) * Nat.pow 5 (1074 - s), 0, 1074 - s⟩

/-- Of an exact decimal's neighbours among the multiples of `10 ^ exponent` units, the nearer one
that passes a test. A tie goes up. -/
def nearestOn (passes : Decimal → Bool) (exact : Decimal) (exponent : Nat) : Option Decimal :=
  let grid := Nat.pow 10 exponent
  let below : Decimal := ⟨exact.digits / grid, exponent, exact.places⟩
  let above : Decimal := ⟨exact.digits / grid + 1, exponent, exact.places⟩
  match passes below, passes above with
  | true, true => if 2 * (exact.digits % grid) < grid then some below else some above
  | true, false => some below
  | false, true => some above
  | false, false => none

/-- The first hit among the grids from `10 ^ exponent` units down; on the grid of single units the
exact decimal stands. -/
def shortestFrom (passes : Decimal → Bool) (exact : Decimal) : Nat → Decimal
  | 0 => exact
  | exponent + 1 =>
    match nearestOn passes exact (exponent + 1) with
    | some d => d
    | none => shortestFrom passes exact exponent

/-- An exponent beyond the number's leading digit: `2 ^ 93` is below `10 ^ 28`. -/
def leadingBound (n : Nat) : Nat :=
  (n.log2 + 1) * 28 / 93 + 1

/-- The decimal of fewest digits that reads back as the given magnitude. -/
def shortest (magnitude : Nat) : Decimal :=
  let exact := exactDecimal magnitude
  shortestFrom (fun d => d.magnitude == magnitude) exact (leadingBound exact.digits)

/-- Digits with a decimal point behind the first `point` of them, filled with zeros on the side
where they fall short. There is a digit on both sides of the point. -/
def positional (digits : List Char) (point : Int) : List Char :=
  if point ≤ 0 then
    ['0', '.'] ++ List.replicate (-point).toNat '0' ++ digits
  else if (digits.length : Int) ≤ point then
    digits ++ List.replicate (point.toNat - digits.length) '0' ++ ['.', '0']
  else
    digits.take point.toNat ++ ['.'] ++ digits.drop point.toNat

/-- Digits with the point behind the first, and the power of ten that this leaves out. -/
def scientific (digits : List Char) (point : Int) : List Char :=
  digits.take 1 ++ (if digits.length ≤ 1 then [] else '.' :: digits.drop 1) ++
    'e' :: (toString (point - 1)).toList

/-- The positions of the decimal point at which a number is written out in full: from `0.0001` up
to, but not including, `10 ^ 16`. -/
def isPositional (point : Int) : Bool :=
  -3 ≤ point && point ≤ 16

/-- The text of a finite magnitude. -/
def magnitudeText (magnitude : Nat) : List Char :=
  if magnitude = 0 then positional ['0'] 1
  else
    let d := shortest magnitude
    let digits := Nat.toDigits 10 d.digits
    let point : Int := digits.length + d.exponent - d.places
    if isPositional point then positional digits point else scientific digits point

/-- The text of a number. What is no number has no sign. -/
def text (x : Binary64) : String :=
  if x.isNaN then "NaN"
  else
    let absolute := if x.isFinite then magnitudeText x.magnitude else ['i', 'n', 'f']
    String.ofList (if x.isNegative then '-' :: absolute else absolute)

end Binary64

end LogicLexer
