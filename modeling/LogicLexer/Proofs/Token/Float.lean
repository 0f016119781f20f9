import LogicLexer.Proofs.Number.Nearest
import LogicLexer.Proofs.Token.Line
import Mathlib.Data.List.Forall2

/-!
# Numbers with a point are rounded once

The tokens of numbers with a point are those spelt as digits around a point, with a minus sign or
not (`Spelling`), and each stands for the number nearest to the exact value that its digits write,
however many these are (`tokens_nearest`). So the exact value and the sign determine the number, a
greater value has no smaller number, and as none of them is unordered, the tokens of a text are
equal to themselves.

A fraction is rounded in one place only, so all this is said of the fraction that the digits make
(`Spelling.exactValue_eq`), and the text has a part in it by the lexeme that a token covers
(`Token.exists_lexeme`).
-/

namespace LogicLexer

open Text Binary64

/-- A number as it is spelt: digits around a point, with a minus sign or not. -/
structure Spelling where
  /-- Whether there is a minus sign. -/
  negative : Bool
  /-- The digits in front of the point. -/
  whole : List Char
  /-- The digits behind the point. -/
  fraction : List Char
  /-- There is a digit in front of the point. -/
  isDigits_whole : IsDigits whole
  /-- What stands behind the point are digits, if anything does. -/
  isDigit_fraction : ∀ c ∈ fraction, c.isDigit = true

namespace Spelling

/-- The text of a number. -/
def text (s : Spelling) : List Char :=
  Lexeme.sign s.negative ++ s.whole ++ '.' :: s.fraction

/-- The exact value of a number. -/
def exactValue (s : Spelling) : ℚ :=
  signed s.negative
    (Nat.ofDigitChars 10 s.whole 0 + Nat.ofDigitChars 10 s.fraction 0 / 10 ^ s.fraction.length)

/-- The number that is read. -/
def number (s : Spelling) : Binary64 :=
  ofDecimal s.negative s.whole s.fraction

/-- The digits as one whole number. -/
def digits (s : Spelling) : ℕ :=
  Nat.ofDigitChars 10 (s.whole ++ s.fraction) 0

/-- The power of ten that divides the digits. -/
def unit (s : Spelling) : ℕ :=
  10 ^ s.fraction.length

/-- The power of ten is not zero. -/
theorem unit_pos (s : Spelling) : 0 < s.unit :=
  Nat.pow_pos (by decide)

/-- The exact value is the fraction that is rounded, with the sign. -/
theorem exactValue_eq (s : Spelling) :
    s.exactValue = signed s.negative ((s.digits : ℚ) / s.unit) := by
  have hpower : (10 : ℚ) ^ s.fraction.length ≠ 0 := by positivity
  have hdigits : s.digits = s.unit * Nat.ofDigitChars 10 s.whole 0 +
      Nat.ofDigitChars 10 s.fraction 0 := by
    rw [digits, Nat.ofDigitChars_append, Nat.ofDigitChars_eq_ofDigitChars_zero, unit]
  rw [hdigits, exactValue, unit]
  push_cast
  congr 1
  field_simp

/-- The number that is read has the sign and the rounded fraction. -/
theorem number_eq (s : Spelling) :
    s.number = ofMagnitude s.negative (roundMagnitude s.digits s.unit) :=
  rfl

/-- A number starts with a minus sign just if it has one. -/
theorem head?_text (s : Spelling) : s.text.head? = some '-' ↔ s.negative = true := by
  obtain ⟨d, ds, hwhole⟩ := List.exists_cons_of_ne_nil s.isDigits_whole.1
  have hd : d ≠ '-' := by
    rintro rfl
    exact absurd (s.isDigits_whole.2 '-' (by simp [hwhole])) (by decide)
  unfold text
  cases s.negative <;> simp [Lexeme.sign, hwhole, hd]

/-- Zeros in front of the digits and behind them have no part in the exact value. -/
theorem exactValue_of_zeros {s s' : Spelling} {i j : ℕ} (hsign : s'.negative = s.negative)
    (hwhole : s'.whole = List.replicate i '0' ++ s.whole)
    (hfraction : s'.fraction = s.fraction ++ List.replicate j '0') :
    s'.exactValue = s.exactValue := by
  have hpower : (10 : ℚ) ^ j ≠ 0 := by positivity
  rw [exactValue, exactValue, hsign, hwhole, hfraction, Nat.ofDigitChars_append,
    Nat.ofDigitChars_replicate_zero, Nat.mul_zero, Nat.ofDigitChars_append,
    Nat.ofDigitChars_replicate_zero, List.length_append, List.length_replicate, pow_add,
    Nat.cast_mul, Nat.cast_pow, Nat.cast_ofNat, mul_comm (10 ^ j : ℚ), mul_div_mul_right _ _ hpower]

/-- The number that is read is the nearest one. -/
theorem isNearest_number (s : Spelling) : s.number.IsNearest s.exactValue := by
  rw [exactValue_eq, number_eq]
  exact isNearest_ofMagnitude _ _ s.unit_pos

/-- A value of at most half a grain is read as a zero. -/
theorem magnitude_number_eq_zero {s : Spelling} (h : |s.exactValue| ≤ 2 ^ (-1075 : ℤ)) :
    s.number.magnitude = 0 := by
  rw [exactValue_eq, abs_signed _ (by positivity)] at h
  rw [number_eq, roundMagnitude_eq_zero s.unit_pos h]
  exact (magnitude_ofMagnitude _ (by decide)).1

/-- The number that is read is a number with the sign that is written. -/
theorem sign_number (s : Spelling) :
    s.number.isNaN = false ∧ s.number.isNegative = s.negative := by
  have hle := roundMagnitude_le_infinity s.digits s.unit
  have hlt : roundMagnitude s.digits s.unit < signBit := Nat.lt_of_le_of_lt hle (by decide)
  rw [number_eq]
  exact ⟨isNaN_ofMagnitude hle _, (magnitude_ofMagnitude _ hlt).2⟩

/-- A value that is no greater is read as no greater number. -/
theorem number_mono {s s' : Spelling} (h : s.exactValue ≤ s'.exactValue) :
    s.number.toEReal ≤ s'.number.toEReal := by
  rw [exactValue_eq, exactValue_eq] at h
  exact toEReal_mono s.unit_pos s'.unit_pos h

/-- Equal values of one sign are read as the same number. -/
theorem number_eq_of_exactValue_eq {s s' : Spelling} (h : s.exactValue = s'.exactValue)
    (hsign : s.negative = s'.negative) : s.number = s'.number := by
  have hfraction : (s.digits : ℚ) / s.unit = s'.digits / s'.unit := by
    have habs := congrArg abs h
    rwa [exactValue_eq, exactValue_eq, abs_signed _ (by positivity),
      abs_signed _ (by positivity)] at habs
  have hunit : (s.unit : ℚ) ≠ 0 := Nat.cast_ne_zero.2 (Nat.ne_of_gt s.unit_pos)
  have hunit' : (s'.unit : ℚ) ≠ 0 := Nat.cast_ne_zero.2 (Nat.ne_of_gt s'.unit_pos)
  rw [div_eq_div_iff hunit hunit'] at hfraction
  rw [number_eq, number_eq, hsign,
    roundMagnitude_eq_of_mul_eq s.unit_pos s'.unit_pos (by exact_mod_cast hfraction)]

end Spelling

/-! ## Tokens -/

namespace Token

/-- A token of a text is spelt as a number with a point. -/
structure IsSpelt (t : Token) (source : String) (s : Spelling) : Prop where
  /-- It is one of the tokens of the text. -/
  mem_tokens : t ∈ (tokenize source).1
  /-- Its part of the text is the number. -/
  textIn?_span : t.span.textIn? source = some (String.ofList s.text)

/-- Each token of a text stands for the well-formed lexeme that its span covers. -/
theorem exists_lexeme {source : String} {t : Token} (ht : t ∈ (tokenize source).1) :
    ∃ (l : Lexeme) (learnt : SymbolTable), l.IsValid ∧ t.value = (l.value learnt).1 ∧
      t.span.textIn? source = some (String.ofList l.text) := by
  obtain ⟨before, after, l, learnt, hvalid, htext, hvalue, hspan⟩ :=
    Layout.exists_lexeme_of_mem_tokenize ht
  refine ⟨l, learnt, hvalid, hvalue, Span.textIn?_eq_some_iff.2 ⟨before, after, ?_, ?_, ?_⟩⟩
  · rw [String.toList_ofList, htext]
  · rw [hspan]
  · rw [hspan, String.toList_ofList]

/-- A token that is spelt as a number with a point is that number. -/
theorem IsSpelt.value_eq {t : Token} {source : String} {s : Spelling} (h : t.IsSpelt source s) :
    t.value = .float s.number := by
  obtain ⟨l, learnt, hvalid, hvalue, hspan⟩ := exists_lexeme h.mem_tokens
  have hfloat := Lexeme.IsValid.float s.negative s.isDigits_whole s.isDigit_fraction
  have htext : l.text = s.text :=
    String.ofList_injective (Option.some.inj (hspan.symm.trans h.textIn?_span))
  rw [hvalue, hvalid.eq_of_text_eq hfloat htext]
  rfl

/-- A number with a point is spelt as one. -/
theorem exists_isSpelt {t : Token} {source : String} (ht : t ∈ (tokenize source).1)
    {x : Binary64} (hx : t.value = .float x) : ∃ s : Spelling, t.IsSpelt source s := by
  obtain ⟨l, learnt, hvalid, hvalue, hspan⟩ := exists_lexeme ht
  have hkind : l.kind = .float := by
    rw [← l.kind_value learnt, ← hvalue, hx]
    rfl
  obtain ⟨negative, whole, fraction, rfl⟩ := l.kind_eq_float_iff.1 hkind
  cases hvalid with
  | float negative whole_valid fraction_valid =>
    exact ⟨⟨negative, whole, fraction, whole_valid, fraction_valid⟩, ht, hspan⟩

/-- A token is equal to itself unless it is no number. -/
theorem equal_self {t : Token} (h : ∀ x, t.value = .float x → x.isNaN = false) :
    t.equal t = true := by
  obtain ⟨value, span⟩ := t
  have hvalue : value.equal value = true := by
    cases value with
    | float x =>
      show x.numEq x = true
      rw [x.numEq_self, h x rfl]
      rfl
    | _ => exact beq_self_eq_true _
  show (value.equal value && span == span) = true
  rw [hvalue, beq_self_eq_true, Bool.and_self]

end Token

/-- Each number with a point in a text is spelt as digits around a point, and each token that is
spelt so is a number: the one nearest to the exact value, infinite if that is too large, zero if it
is at most half the least positive number, and negative just if there is a minus sign. Equal values
of one sign have the same number, a greater value has no smaller one, and zeros around the digits do
not count. The tokens of a text are equal to those of another scan. -/
theorem tokens_nearest (source : String) :
    (∀ t ∈ (tokenize source).1, ∀ x, t.value = .float x → ∃ s : Spelling, t.IsSpelt source s) ∧
    (∀ (t : Token) (s : Spelling), t.IsSpelt source s → ∃ x : Binary64,
      t.value = .float x ∧ x.isNaN = false ∧
      (x.isNegative = true ↔ s.text.head? = some '-') ∧ x.IsNearest s.exactValue ∧
      (|s.exactValue| ≤ (2 : ℚ) ^ (-1075 : ℤ) → x.magnitude = 0)) ∧
    (∀ (t : Token) (s : Spelling) (x : Binary64) (source' : String) (t' : Token) (s' : Spelling)
      (x' : Binary64), t.IsSpelt source s → t'.IsSpelt source' s' →
      t.value = .float x → t'.value = .float x' →
      (s.exactValue = s'.exactValue → s.negative = s'.negative → x = x') ∧
      (s.exactValue ≤ s'.exactValue → x.toEReal ≤ x'.toEReal)) ∧
    (∀ (s s' : Spelling) (i j : ℕ), s'.negative = s.negative →
      s'.whole = List.replicate i '0' ++ s.whole →
      s'.fraction = s.fraction ++ List.replicate j '0' → s'.exactValue = s.exactValue) ∧
    List.Forall₂ (fun t u => t.equal u = true) (tokenize source).1 (tokenize source).1 := by
  refine ⟨fun t ht x hx => Token.exists_isSpelt ht hx, fun t s hs => ?_, ?_,
    fun s s' i j => Spelling.exactValue_of_zeros, List.forall₂_same.2 fun t ht => ?_⟩
  · obtain ⟨hnumber, hsign⟩ := s.sign_number
    refine ⟨s.number, hs.value_eq, hnumber, ?_, s.isNearest_number, s.magnitude_number_eq_zero⟩
    rw [hsign, s.head?_text]
  · intro t s x source' t' s' x' hs hs' hx hx'
    obtain rfl := Value.float.inj (hx.symm.trans hs.value_eq)
    obtain rfl := Value.float.inj (hx'.symm.trans hs'.value_eq)
    exact ⟨s.number_eq_of_exactValue_eq, s.number_mono⟩
  · refine t.equal_self fun x hx => ?_
    obtain ⟨s, hs⟩ := Token.exists_isSpelt ht hx
    obtain rfl := Value.float.inj (hx.symm.trans hs.value_eq)
    exact s.sign_number.1

/-- A whole number in the middle between two numbers. -/
def Spelling.middle : Spelling where
  negative := false
  whole := "9007199254740993".toList
  fraction := []
  isDigits_whole := ⟨by decide, List.all_eq_true.1 (by decide)⟩
  isDigit_fraction := List.forall_mem_nil _

/-- The same number with zeros around its digits. -/
def Spelling.middleZeros : Spelling where
  negative := false
  whole := "09007199254740993".toList
  fraction := ['0']
  isDigits_whole := ⟨by decide, List.all_eq_true.1 (by decide)⟩
  isDigit_fraction := List.all_eq_true.1 (by decide)

/-- In the middle between two numbers the even one is taken, also with zeros around the digits. -/
theorem tokens_nearest_middle :
    let source := "9007199254740993. 09007199254740993.0"
    let x : Binary64 := ⟨0x4340000000000000⟩
    let t : Token := ⟨.float x, ⟨0, 17⟩⟩
    let t' : Token := ⟨.float x, ⟨18, 37⟩⟩
    t ∈ (tokenize source).1 ∧ t.IsSpelt source .middle ∧ t'.IsSpelt source .middleZeros ∧
      Spelling.middle.exactValue = 9007199254740993 ∧ x.IsNearest Spelling.middle.exactValue ∧
      Spelling.middleZeros.exactValue = Spelling.middle.exactValue ∧ x.toEReal ≤ x.toEReal := by
  intro source x t t'
  have ht : t.IsSpelt source .middle := ⟨by decide +kernel, by decide +kernel⟩
  have ht' : t'.IsSpelt source .middleZeros := ⟨by decide +kernel, by decide +kernel⟩
  have hvalue : Spelling.middle.exactValue = 9007199254740993 := by
    have hwhole : Nat.ofDigitChars 10 Spelling.middle.whole 0 = 9007199254740993 := by
      decide +kernel
    have hfraction : Nat.ofDigitChars 10 Spelling.middle.fraction 0 = 0 := rfl
    rw [Spelling.exactValue, hwhole, hfraction]
    norm_num [signed, Spelling.middle]
  obtain ⟨-, hnearest, hcompare, hzeros, -⟩ := tokens_nearest source
  obtain ⟨y, hy, -, -, hy_nearest, -⟩ := hnearest t _ ht
  obtain rfl := Value.float.inj hy
  have hequal := hzeros .middle .middleZeros 1 1 rfl rfl rfl
  exact ⟨ht.mem_tokens, ht, ht', hvalue, hy_nearest, hequal,
    (hcompare t _ x source t' _ x ht ht' rfl rfl).2 (le_of_eq hequal.symm)⟩

end LogicLexer
