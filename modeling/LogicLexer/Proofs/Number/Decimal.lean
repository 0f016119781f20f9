import LogicLexer.Proofs.Number.Digits
import LogicLexer.Proofs.Number.Rounding
import LogicLexer.Proofs.Scanner.MaximalMunch

/-!
# The text of a number is read back

`Binary64.ofText` reads what `Binary64.text` writes: a mantissa with or without a point, a power of
ten where one is written, and a minus sign in front. Every number, the infinities and both zeros
among them, is read back from its text (`ofText_text`), so the text determines the number
(`text_injective`).

There are two steps to it. Every decimal that `shortest` may settle on has the magnitude that it was
made from, the exact one among them (`magnitude_shortest`). And wherever `positional` and
`scientific` put the point, the text stands for the decimal that it was written for
(`writesMagnitude_positional`, `writesMagnitude_scientific`).
-/

namespace LogicLexer

open Text

/-! ## Whole numbers -/

/-- A whole number is written as digits, with a minus sign or not. -/
theorem exists_repr_eq (z : Int) :
    ∃ negative ds, IsDigits ds ∧ z.repr.toList = Lexeme.sign negative ++ ds := by
  rw [Int.repr_eq_if]
  split
  · exact ⟨false, _, isDigits_toDigits _, Nat.toList_repr⟩
  · refine ⟨true, _, isDigits_toDigits (-z).toNat, ?_⟩
    rw [String.toList_append, Nat.toList_repr]
    rfl

/-- There are digits in the text of a whole number, and perhaps a minus sign. -/
theorem of_mem_repr {z : Int} {c : Char} (h : c ∈ z.repr.toList) : c = '-' ∨ c.isDigit = true := by
  obtain ⟨negative, ds, hds, hrepr⟩ := exists_repr_eq z
  rw [hrepr] at h
  rcases List.mem_append.1 h with h | h
  · cases negative with
    | true => exact .inl (List.mem_singleton.1 h)
    | false => exact absurd h List.not_mem_nil
  · exact .inr (hds.2 c h)

/-- A whole number is the one that its text writes. -/
theorem numeral_repr (z : Int) : numeral z.repr.toList = z := by
  have hpositive := @numeral_sign_append false _ (isDigits_toDigits z.toNat)
  have hnegative := @numeral_sign_append true _ (isDigits_toDigits (-z).toNat)
  rw [Nat.ofDigitChars_ten_toDigits] at hpositive hnegative
  rw [Int.repr_eq_if]
  split
  · rw [Nat.toList_repr]
    exact hpositive.trans (by simp; omega)
  · rw [String.toList_append, Nat.toList_repr]
    exact hnegative.trans (by simp; omega)

namespace Binary64

/-! ## The decimal of a magnitude -/

/-- Decimals of the same value have the same magnitude. -/
theorem Decimal.magnitude_eq {c d : Decimal}
    (h : c.digits * 10 ^ (c.exponent + d.places) = d.digits * 10 ^ (d.exponent + c.places)) :
    c.magnitude = d.magnitude := by
  refine roundMagnitude_eq_of_mul_eq (Nat.pow_pos (by decide)) (Nat.pow_pos (by decide)) ?_
  show c.digits * 10 ^ c.exponent * 10 ^ d.places = d.digits * 10 ^ d.exponent * 10 ^ c.places
  rw [mul_assoc, mul_assoc, ← pow_add, ← pow_add, h]

/-- Dividing by a power of two is multiplying by one of five and moving the point. -/
theorem shiftLeft_mul_five_pow (n s unit : Nat) :
    n <<< (s - unit) * 5 ^ (unit - s) * 1 <<< unit = n <<< s * 10 ^ (unit - s) := by
  have hten : (10 : Nat) ^ (unit - s) = 2 ^ (unit - s) * 5 ^ (unit - s) :=
    Nat.mul_pow 2 5 (unit - s)
  have htwo : (2 : Nat) ^ (s - unit) * 2 ^ unit = 2 ^ s * 2 ^ (unit - s) := by
    rw [← pow_add, ← pow_add]
    congr 1
    omega
  simp only [Nat.shiftLeft_eq, one_mul]
  calc n * 2 ^ (s - unit) * 5 ^ (unit - s) * 2 ^ unit
      = n * 5 ^ (unit - s) * (2 ^ (s - unit) * 2 ^ unit) := by ring
    _ = n * 2 ^ s * (2 ^ (unit - s) * 5 ^ (unit - s)) := by rw [htwo]; ring
    _ = n * 2 ^ s * 10 ^ (unit - s) := by rw [hten]

/-- The exact decimal of a magnitude has that magnitude. -/
theorem magnitude_exactDecimal {m : Nat} (h : m < infinity) : (exactDecimal m).magnitude = m := by
  have hone := shiftLeft_pos Nat.one_pos 1074
  have hvalue := shiftLeft_mul_five_pow (significand m) (scale m) 1074
  have hgrains := roundMagnitude_grains h
  unfold exactDecimal Decimal.magnitude
  dsimp only
  -- The unit stays a name from here on: as a number it has hundreds of digits.
  generalize 1 <<< 1074 = one at hone hvalue hgrains
  refine Eq.trans (roundMagnitude_eq_of_mul_eq (Nat.pow_pos (by decide)) hone ?_) hgrains
  show _ * 10 ^ 0 * one = _
  rw [pow_zero, mul_one]
  exact hvalue

/-- A neighbour on a grid is taken only if it passes. -/
theorem passes_of_nearestOn {passes : Decimal → Bool} {exact d : Decimal} {exponent : Nat}
    (h : nearestOn passes exact exponent = some d) : passes d = true := by
  unfold nearestOn at h
  extract_lets grid below above at h
  cases hbelow : passes below <;> cases habove : passes above <;>
    simp only [hbelow, habove] at h
  · cases h
  · exact Option.some.inj h ▸ habove
  · exact Option.some.inj h ▸ hbelow
  · split at h
    · exact Option.some.inj h ▸ hbelow
    · exact Option.some.inj h ▸ habove

/-- So the first hit passes, if the exact decimal does. -/
theorem passes_shortestFrom {passes : Decimal → Bool} {exact : Decimal} (h : passes exact = true)
    (exponent : Nat) : passes (shortestFrom passes exact exponent) = true := by
  induction exponent with
  | zero => exact h
  | succ exponent ih =>
    rw [shortestFrom]
    split
    case h_1 hnear => exact passes_of_nearestOn hnear
    case h_2 => exact ih

/-- The decimal of fewest digits has the magnitude that it was made from. -/
theorem magnitude_shortest {m : Nat} (h : m < infinity) : (shortest m).magnitude = m := by
  have hexact : ((exactDecimal m).magnitude == m) = true := beq_iff_eq.2 (magnitude_exactDecimal h)
  have hpasses := @passes_shortestFrom (fun d => d.magnitude == m) _ hexact
    (leadingBound (exactDecimal m).digits)
  unfold shortest
  exact beq_iff_eq.1 hpasses

/-! ## Reading -/

/-- The decimal of the digits in front of a point and behind it and of a power of ten. -/
def Decimal.ofParts (whole fraction : List Char) (exponent : Int) : Decimal :=
  ⟨Nat.ofDigitChars 10 (whole ++ fraction) 0, exponent.toNat,
    fraction.length + (-exponent).toNat⟩

/-- The decimal that a text without a sign stands for: digits with or without a point, and behind an
`e` a power of ten. -/
def readDecimal (text : List Char) : Decimal :=
  let mantissa := text.takeWhile (· != 'e')
  let fraction := (mantissa.dropWhile (· != '.')).drop 1
  .ofParts (mantissa.takeWhile (· != '.')) fraction (numeral ((text.dropWhile (· != 'e')).drop 1))

/-- The magnitude that a text without a sign stands for. -/
def readMagnitude (text : List Char) : Nat :=
  if text = ['i', 'n', 'f'] then infinity else (readDecimal text).magnitude

/-- The number that a text stands for. -/
def ofText (text : String) : Binary64 :=
  match text.toList with
  | '-' :: cs => ofMagnitude true (readMagnitude cs)
  | cs => ofMagnitude false (readMagnitude cs)

/-- A text is written with the given digits in front of the point and behind it and the given power
of ten. There is no point without digits behind it, and the power may be left out if it is zero. -/
structure IsWritten (text whole fraction : List Char) (exponent : Int) : Prop where
  /-- There is a digit in front of the point. -/
  isDigits_whole : IsDigits whole
  /-- What stands behind the point are digits. -/
  isDigit_fraction : ∀ c ∈ fraction, c.isDigit = true
  /-- The parts of the text. -/
  text_eq : ∃ point power, text = whole ++ point ++ power ∧
    (point = '.' :: fraction ∨ point = [] ∧ fraction = []) ∧
    (power = 'e' :: exponent.repr.toList ∨ power = [] ∧ exponent = 0)

/-- A text starts with a digit. -/
theorem IsWritten.isDigit_of_mem_head? {text whole fraction : List Char} {exponent : Int}
    (h : IsWritten text whole fraction exponent) {c : Char} (hc : c ∈ text.head?) :
    c.isDigit = true := by
  obtain ⟨point, power, rfl, -⟩ := h.text_eq
  obtain ⟨d, ds, rfl⟩ := List.exists_cons_of_ne_nil h.isDigits_whole.1
  obtain rfl : d = c := by simpa using hc
  exact h.isDigits_whole.2 d List.mem_cons_self

/-- A text goes on with digits, but for the point, the power of ten and its sign. -/
theorem IsWritten.of_mem {text whole fraction : List Char} {exponent : Int}
    (h : IsWritten text whole fraction exponent) {c : Char} (hc : c ∈ text) :
    c.isDigit = true ∨ c = '.' ∨ c = 'e' ∨ c = '-' := by
  obtain ⟨point, power, rfl, hpoint, hpower⟩ := h.text_eq
  rcases List.mem_append.1 hc with hc | hc
  · rcases List.mem_append.1 hc with hc | hc
    · exact .inl (h.isDigits_whole.2 c hc)
    · rcases hpoint with rfl | ⟨rfl, -⟩
      · exact (List.mem_cons.1 hc).elim (fun heq => .inr (.inl heq))
          fun hc => .inl (h.isDigit_fraction c hc)
      · exact absurd hc List.not_mem_nil
  · rcases hpower with rfl | ⟨rfl, -⟩
    · rcases List.mem_cons.1 hc with rfl | hc
      · simp
      · exact (of_mem_repr hc).elim (fun heq => .inr (.inr (.inr heq))) .inl
    · exact absurd hc List.not_mem_nil

/-- The parts of a text are found again. -/
theorem IsWritten.readDecimal_eq {text whole fraction : List Char} {exponent : Int}
    (h : IsWritten text whole fraction exponent) :
    readDecimal text = .ofParts whole fraction exponent := by
  obtain ⟨point, power, rfl, hpoint, hpower⟩ := h.text_eq
  have hdigit : ∀ c : Char, c.isDigit = true → (c != 'e') = true ∧ (c != '.') = true := by
    intro c hc
    constructor <;> exact bne_iff_ne.2 fun heq => absurd (heq ▸ hc) (by decide)
  have hmantissa : ∀ c ∈ whole ++ point, (c != 'e') = true := by
    intro c hc
    rcases List.mem_append.1 hc with hc | hc
    · exact (hdigit c (h.isDigits_whole.2 c hc)).1
    · rcases hpoint with rfl | ⟨rfl, -⟩
      · rcases List.mem_cons.1 hc with rfl | hc
        · decide
        · exact (hdigit c (h.isDigit_fraction c hc)).1
      · exact absurd hc List.not_mem_nil
  -- The mantissa goes up to the power, and the whole part up to the point.
  have hpowerStops : Stops (· != 'e') power := by
    rcases hpower with rfl | ⟨rfl, -⟩ <;> simp
  have hpointStops : Stops (· != '.') point := by
    rcases hpoint with rfl | ⟨rfl, -⟩ <;> simp
  have hwhole : ∀ c ∈ whole, (c != '.') = true := fun c hc => (hdigit c (h.isDigits_whole.2 c hc)).2
  have hfraction : point.drop 1 = fraction := by
    rcases hpoint with rfl | ⟨rfl, rfl⟩ <;> rfl
  have hexponent : numeral (power.drop 1) = exponent := by
    rcases hpower with rfl | ⟨rfl, rfl⟩
    · exact numeral_repr exponent
    · rfl
  unfold readDecimal
  dsimp only
  rw [takeWhile_append_of_stops hmantissa hpowerStops,
    dropWhile_append_of_stops hmantissa hpowerStops, takeWhile_append_of_stops hwhole hpointStops,
    dropWhile_append_of_stops hwhole hpointStops, hfraction, hexponent]

/-! ## Writing -/

/-- Digits around a point stand for other digits with a point at the given place, be it outside of
them: there may be zeros behind these, and as many more places behind the point. -/
structure FillsIn (digits : List Char) (point : Int) (whole fraction : List Char) : Prop where
  /-- There is a digit in front of the point. -/
  isDigits_whole : IsDigits whole
  /-- There is a digit behind the point. -/
  isDigits_fraction : IsDigits fraction
  /-- The zeros that were added behind the digits. -/
  exists_zeros : ∃ zeros : Nat,
    Nat.ofDigitChars 10 (whole ++ fraction) 0 = 10 ^ zeros * Nat.ofDigitChars 10 digits 0 ∧
      (fraction.length : Int) = digits.length - point + zeros

/-- Zeros are digits. -/
theorem isDigit_of_mem_zeros {n : Nat} {c : Char} (h : c ∈ List.replicate n '0') :
    c.isDigit = true := by
  rw [List.eq_of_mem_replicate h]
  rfl

/-- Digits are written in full around a point. -/
theorem exists_positional_eq {digits : List Char} (h : IsDigits digits) (point : Int) :
    ∃ whole fraction, positional digits point = whole ++ '.' :: fraction ∧
      FillsIn digits point whole fraction := by
  by_cases hleft : point ≤ 0
  · -- The zeros stand between the point and the digits, and do not count.
    refine ⟨['0'], List.replicate (-point).toNat '0' ++ digits, ?_, ?_⟩
    · rw [positional, if_pos hleft]
      rfl
    · refine ⟨⟨by simp, by simp⟩, ⟨by simp [h.1], fun c hc => ?_⟩, 0, ?_, ?_⟩
      · exact (List.mem_append.1 hc).elim isDigit_of_mem_zeros (h.2 c)
      · show Nat.ofDigitChars 10 (List.replicate _ '0' ++ digits) 0 = _
        rw [Nat.ofDigitChars_append, Nat.ofDigitChars_replicate_zero, mul_zero, pow_zero, one_mul]
      · rw [List.length_append, List.length_replicate]
        omega
  · by_cases hright : (digits.length : Int) ≤ point
    · -- The zeros stand between the digits and the point, and there is one more behind it.
      refine ⟨digits ++ List.replicate (point.toNat - digits.length) '0', ['0'], ?_, ?_⟩
      · rw [positional, if_neg hleft, if_pos hright]
      · refine ⟨⟨by simp [h.1], fun c hc => ?_⟩, ⟨by simp, by simp⟩,
          point.toNat - digits.length + 1, ?_, ?_⟩
        · exact (List.mem_append.1 hc).elim (h.2 c) isDigit_of_mem_zeros
        · rw [List.append_assoc, ← List.replicate_succ', Nat.ofDigitChars_append,
            Nat.ofDigitChars_replicate_zero]
        · rw [List.length_singleton]
          omega
    · -- The point stands among the digits.
      refine ⟨digits.take point.toNat, digits.drop point.toNat, ?_, ?_⟩
      · rw [positional, if_neg hleft, if_neg hright, List.append_assoc]
        rfl
      · refine ⟨⟨?_, fun c hc => h.2 c (List.mem_of_mem_take hc)⟩,
          ⟨?_, fun c hc => h.2 c (List.mem_of_mem_drop hc)⟩, 0, ?_, ?_⟩
        · rw [← List.length_pos_iff, List.length_take]
          omega
        · rw [← List.length_pos_iff, List.length_drop]
          omega
        · rw [List.take_append_drop, pow_zero, one_mul]
        · rw [List.length_drop]
          omega

/-- A number without a power of ten is written as what stands around its point. -/
theorem isWritten_positional {digits whole fraction : List Char} {point : Int}
    (heq : positional digits point = whole ++ '.' :: fraction)
    (h : FillsIn digits point whole fraction) :
    IsWritten (positional digits point) whole fraction 0 :=
  ⟨h.isDigits_whole, h.isDigits_fraction.2, '.' :: fraction, [],
    by rw [heq, List.append_nil], Or.inl rfl, Or.inr ⟨rfl, rfl⟩⟩

/-- A number with a power of ten has its first digit in front of the point. -/
theorem isWritten_scientific {digits : List Char} (h : IsDigits digits) (point : Int) :
    IsWritten (scientific digits point) (digits.take 1) (digits.drop 1) (point - 1) := by
  refine ⟨⟨?_, fun c hc => h.2 c (List.mem_of_mem_take hc)⟩,
    fun c hc => h.2 c (List.mem_of_mem_drop hc), _, _, rfl, ?_, Or.inl rfl⟩
  · simpa using h.1
  · split
    case isTrue hshort => exact Or.inr ⟨rfl, List.drop_eq_nil_of_le hshort⟩
    case isFalse => exact Or.inl rfl

/-- The digits of a decimal. -/
def Decimal.digitChars (d : Decimal) : List Char :=
  Nat.toDigits 10 d.digits

/-- Where the point stands in the digits of a decimal, or outside of them. -/
def Decimal.point (d : Decimal) : Int :=
  d.digitChars.length + d.exponent - d.places

/-- A text is written with a decimal of the given magnitude. -/
def WritesMagnitude (text : List Char) (m : Nat) : Prop :=
  ∃ whole fraction exponent, IsWritten text whole fraction exponent ∧
    (Decimal.ofParts whole fraction exponent).magnitude = m

/-- Digits that are filled in around a point make a decimal of the same magnitude. -/
theorem FillsIn.magnitude_eq {d : Decimal} {whole fraction : List Char}
    (h : FillsIn d.digitChars d.point whole fraction) :
    (Decimal.ofParts whole fraction 0).magnitude = d.magnitude := by
  obtain ⟨zeros, hvalue, hlength⟩ := h.exists_zeros
  rw [Decimal.digitChars, Nat.ofDigitChars_ten_toDigits] at hvalue
  -- The zeros that were added count as places behind the point and as a power of ten.
  have hplaces : zeros + d.places = d.exponent + fraction.length := by
    have : d.point = d.digitChars.length + d.exponent - d.places := rfl
    omega
  refine Decimal.magnitude_eq ?_
  show Nat.ofDigitChars 10 (whole ++ fraction) 0 * 10 ^ (0 + d.places) =
    d.digits * 10 ^ (d.exponent + fraction.length)
  rw [hvalue, zero_add, ← hplaces, pow_add]
  ring

/-- A decimal is written in full. -/
theorem writesMagnitude_positional (d : Decimal) :
    WritesMagnitude (positional d.digitChars d.point) d.magnitude := by
  obtain ⟨whole, fraction, heq, hfills⟩ := exists_positional_eq (isDigits_toDigits d.digits) d.point
  exact ⟨whole, fraction, 0, isWritten_positional heq hfills, hfills.magnitude_eq⟩

/-- A decimal is written with a power of ten. -/
theorem writesMagnitude_scientific (d : Decimal) :
    WritesMagnitude (scientific d.digitChars d.point) d.magnitude := by
  have hlength := List.length_pos_iff.2 (isDigits_toDigits d.digits).1
  have hplaces : (d.point - 1).toNat + d.places =
      d.exponent + (((Nat.toDigits 10 d.digits).drop 1).length + (-(d.point - 1)).toNat) := by
    have : d.point = (Nat.toDigits 10 d.digits).length + d.exponent - d.places := rfl
    rw [List.length_drop]
    omega
  refine ⟨_, _, _, isWritten_scientific (isDigits_toDigits d.digits) d.point,
    Decimal.magnitude_eq ?_⟩
  unfold Decimal.ofParts
  rw [List.take_append_drop, Nat.ofDigitChars_ten_toDigits, hplaces]

/-- A magnitude other than zero is written as its shortest decimal. -/
theorem magnitudeText_eq {m : Nat} (h : m ≠ 0) :
    magnitudeText m =
      if isPositional (shortest m).point then
        positional (shortest m).digitChars (shortest m).point
      else scientific (shortest m).digitChars (shortest m).point := by
  unfold magnitudeText
  rw [if_neg h]
  rfl

/-- The text of a finite magnitude is written with a decimal that has this magnitude. -/
theorem writesMagnitude_magnitudeText {m : Nat} (h : m < infinity) :
    WritesMagnitude (magnitudeText m) m := by
  by_cases hzero : m = 0
  · -- Zero has the digit of the decimal without digits.
    subst hzero
    exact writesMagnitude_positional ⟨0, 0, 0⟩
  · have hshortest := magnitude_shortest h
    have hpositional := writesMagnitude_positional (shortest m)
    have hscientific := writesMagnitude_scientific (shortest m)
    rw [hshortest] at hpositional hscientific
    rw [magnitudeText_eq hzero]
    split
    · exact hpositional
    · exact hscientific

/-- A magnitude is read back from its text. -/
theorem WritesMagnitude.readMagnitude_eq {text : List Char} {m : Nat} (h : WritesMagnitude text m) :
    readMagnitude text = m := by
  obtain ⟨whole, fraction, exponent, hwritten, hvalue⟩ := h
  have hfinite : text ≠ ['i', 'n', 'f'] := by
    rintro rfl
    exact absurd (hwritten.isDigit_of_mem_head? rfl) (by decide)
  rw [readMagnitude, if_neg hfinite, hwritten.readDecimal_eq, hvalue]

/-- The text of a number without its sign. -/
def absoluteText (x : Binary64) : List Char :=
  if x.isFinite then magnitudeText x.magnitude else ['i', 'n', 'f']

/-- The text of a number is that of its magnitude behind its sign. -/
theorem toList_text {x : Binary64} (h : x.isNaN = false) :
    x.text.toList = Lexeme.sign x.isNegative ++ absoluteText x := by
  unfold text
  rw [if_neg (by simp [h])]
  cases x.isNegative <;> simp [absoluteText, Lexeme.sign]

/-- There is no line feed in the text of a number. -/
theorem lineFeed_notMem_text {x : Binary64} (h : x.isNaN = false) : '\n' ∉ x.text.toList := by
  rw [toList_text h, List.mem_append, not_or]
  constructor
  · cases x.isNegative <;> decide
  · unfold absoluteText
    split
    case isTrue hfinite =>
      obtain ⟨_, _, _, hwritten, -⟩ := writesMagnitude_magnitudeText (of_decide_eq_true hfinite)
      exact fun hc => absurd (hwritten.of_mem hc) (by decide)
    case isFalse => decide

/-- Without its sign, the text of a number has no minus sign in front and is read back as the
magnitude. -/
theorem readMagnitude_absoluteText {x : Binary64} (h : x.isNaN = false) :
    readMagnitude (absoluteText x) = x.magnitude ∧ ∀ cs, absoluteText x ≠ '-' :: cs := by
  unfold absoluteText
  split
  case isTrue hfinite =>
    have hwrites := writesMagnitude_magnitudeText (of_decide_eq_true hfinite)
    refine ⟨hwrites.readMagnitude_eq, fun cs heq => ?_⟩
    obtain ⟨_, _, _, hwritten, -⟩ := heq ▸ hwrites
    exact absurd (hwritten.isDigit_of_mem_head? rfl) (by decide)
  case isFalse hfinite =>
    have hmagnitude : x.magnitude = infinity :=
      Nat.le_antisymm (Nat.le_of_not_lt (of_decide_eq_false h))
        (Nat.le_of_not_lt fun hlt => hfinite (decide_eq_true hlt))
    exact ⟨hmagnitude.symm, fun cs heq => by cases heq⟩

/-- A number is read back from its text. -/
theorem ofText_text {x : Binary64} (h : x.isNaN = false) : ofText x.text = x := by
  obtain ⟨hread, hminus⟩ := readMagnitude_absoluteText h
  have hback := x.ofMagnitude_magnitude
  unfold ofText
  rw [toList_text h]
  cases hsign : x.isNegative with
  | true =>
    rw [hsign] at hback
    show ofMagnitude true (readMagnitude (absoluteText x)) = x
    rw [hread, hback]
  | false =>
    rw [hsign] at hback
    show (match absoluteText x with
      | '-' :: cs => ofMagnitude true (readMagnitude cs)
      | cs => ofMagnitude false (readMagnitude cs)) = x
    split
    case h_1 cs heq => exact absurd heq (hminus cs)
    case h_2 => rw [hread, hback]

/-- The text of a number tells the number. -/
theorem text_injective {x y : Binary64} (hx : x.isNaN = false) (hy : y.isNaN = false)
    (h : x.text = y.text) : x = y := by
  rw [← ofText_text hx, h, ofText_text hy]

end Binary64

end LogicLexer
