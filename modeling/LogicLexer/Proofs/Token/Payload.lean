import LogicLexer.Proofs.Number.Positional
import LogicLexer.Proofs.Token.Line

/-!
# Printed numbers are scanned again

A whole number is printed as digits with a minus sign or not, so its payload is one token again,
with the same value. A number with a point is printed as digits on both sides of a point if it is
moderate (`Binary64.IsModerate.exists_lexeme`), and then the same holds for its payload. The payload
of any other number has a letter in it, in `inf` or in front of a power of ten
(`Binary64.exists_letter`), and no text with a number with a point as its one token has one
(`Token.isIdentifierStart_of_mem`).
-/

namespace LogicLexer

open Text

/-- A text that is one lexeme has one token. -/
theorem Lexeme.IsValid.tokenize_eq {l : Lexeme} (h : l.IsValid) (source : String)
    (htext : source.toList = l.text) :
    tokenize source =
      ([⟨(l.value .empty).1, ⟨0, source.utf8ByteSize⟩⟩], (l.value .empty).2) := by
  have hvalid : (Layout.piece [] l (.done [])).IsValid :=
    .piece (by simp) h l.endsAt_nil (.done (by simp))
  have hlayout : Layout.ofText source.toList = .piece [] l (.done []) := by
    refine hvalid.eq_ofText ?_
    rw [htext, Layout.text, Layout.text, List.nil_append, List.append_nil]
  have hsize : 0 + byteLength ([] : List Char) + byteLength l.text = source.utf8ByteSize := by
    rw [← htext, byteLength_toList, byteLength_nil, Nat.zero_add]
  refine Prod.ext ?_ ?_
  · rw [Layout.tokens_tokenize, hlayout, ← hsize]
    rfl
  · rw [Layout.symbols_tokenize, hlayout]
    rfl

/-- The payload of a value is a text with one token, which has this value. -/
def Value.ScansBack (v : Value) : Prop :=
  tokenize v.text = ([⟨v, ⟨0, v.text.utf8ByteSize⟩⟩], .empty)

/-- Whole numbers are scanned again, the least one among them. -/
theorem Value.scansBack_integer (n : Int64) : (Value.integer n).ScansBack := by
  obtain ⟨negative, ds, hds, hrepr⟩ := exists_repr_eq n.toInt
  have hvalue : Lexeme.integerValue negative ds = .integer n := by
    have hnumber := numeral_repr n.toInt
    have hrange : -9223372036854775808 ≤ n.toInt ∧ n.toInt ≤ 9223372036854775807 :=
      ⟨n.le_toInt, Int.le_of_lt_add_one n.toInt_lt⟩
    rw [hrepr] at hnumber
    rw [Lexeme.integerValue_eq hds, hnumber, if_pos hrange, Int64.ofInt_toInt]
  have htokens := (Lexeme.IsValid.integer negative hds).tokenize_eq n.toInt.repr hrepr
  rw [show ((Lexeme.integer negative ds).value .empty).1 = .integer n from hvalue] at htokens
  exact htokens

namespace Binary64

/-- A finite number that is zero, or neither too small nor too large to be written out in full. -/
def IsModerate (x : Binary64) : Prop :=
  x.isFinite = true ∧ (x.toRat = 0 ∨ 1 / 10 ^ 4 ≤ |x.toRat| ∧ |x.toRat| < 10 ^ 16)

/-- Only the magnitude zero is zero. -/
theorem toRat_eq_zero_iff (x : Binary64) : x.toRat = 0 ↔ x.magnitude = 0 := by
  rw [← abs_eq_zero, abs_toRat, ← absolute_zero]
  exact strictMono_absolute.injective.eq_iff

/-- The magnitude of a number tells whether it is written out in full. -/
theorem isModerate_iff (x : Binary64) : x.IsModerate ↔
    x.magnitude < infinity ∧
      (x.magnitude = 0 ∨ isPositional (shortest x.magnitude).point = true) := by
  unfold IsModerate isFinite
  rw [decide_eq_true_iff, toRat_eq_zero_iff, abs_toRat]
  refine and_congr_right fun hfinite => or_congr_right' fun hzero => ?_
  exact (isPositional_shortest_iff hfinite hzero).symm

/-- The number of digits around a point has the magnitude of their decimal. -/
theorem ofDecimal_eq (negative : Bool) (whole fraction : List Char) :
    ofDecimal negative whole fraction =
      ofMagnitude negative (Decimal.ofParts whole fraction 0).magnitude := by
  have hdigits : Nat.ofDigitChars 10 (whole ++ fraction) 0 * Nat.pow 10 (0 : ℤ).toNat =
      Nat.ofDigitChars 10 (whole ++ fraction) 0 := Nat.mul_one _
  rw [ofDecimal, Decimal.magnitude, Decimal.ofParts, hdigits]
  rfl

/-- A moderate number is written with digits on both sides of a point, and these are rounded to the
number. -/
theorem IsModerate.exists_lexeme {x : Binary64} (h : x.IsModerate) (hx : x.isNaN = false) :
    ∃ whole fraction, (Lexeme.float x.isNegative whole fraction).IsValid ∧
      x.text.toList = (Lexeme.float x.isNegative whole fraction).text ∧
      ofDecimal x.isNegative whole fraction = x := by
  obtain ⟨hfinite, hpoint⟩ := x.isModerate_iff.1 h
  obtain ⟨d, htext, hmagnitude⟩ : ∃ d : Decimal,
      magnitudeText x.magnitude = positional d.digitChars d.point ∧ d.magnitude = x.magnitude := by
    by_cases hzero : x.magnitude = 0
    · -- Zero has the digit of the decimal without digits.
      exact ⟨⟨0, 0, 0⟩, by rw [hzero]; rfl, by rw [hzero]; rfl⟩
    · refine ⟨shortest x.magnitude, ?_, magnitude_shortest hfinite⟩
      rw [magnitudeText_eq hzero, if_pos (hpoint.resolve_left hzero)]
  obtain ⟨whole, fraction, hparts, hfills⟩ :=
    exists_positional_eq (isDigits_toDigits d.digits) d.point
  refine ⟨whole, fraction, .float _ hfills.isDigits_whole hfills.isDigits_fraction.2, ?_, ?_⟩
  · have hfinite : x.isFinite = true := decide_eq_true hfinite
    rw [toList_text hx, absoluteText, if_pos hfinite, htext, Decimal.digitChars, hparts,
      Lexeme.text, List.append_assoc]
  · rw [ofDecimal_eq, hfills.magnitude_eq, hmagnitude, ofMagnitude_magnitude]

/-- The text of any other number has a letter in it. -/
theorem exists_letter {x : Binary64} (h : ¬ x.IsModerate) (hx : x.isNaN = false) :
    ∃ c ∈ x.text.toList, isIdentifierStart c = true := by
  rw [toList_text hx, absoluteText]
  rw [isModerate_iff] at h
  split
  case isTrue hfinite =>
    obtain ⟨hzero, hpoint⟩ := not_or.1 (not_and.1 h (of_decide_eq_true hfinite))
    refine ⟨'e', List.mem_append_right _ ?_, by decide⟩
    rw [magnitudeText_eq hzero, if_neg hpoint, scientific]
    simp
  case isFalse => exact ⟨'i', List.mem_append_right _ (by simp), by decide⟩

end Binary64

/-- There is no letter in a well-formed number with a point. -/
theorem Lexeme.isIdentifierStart_of_mem_float {negative : Bool} {whole fraction : List Char}
    (h : (float negative whole fraction).IsValid) :
    ∀ c ∈ (float negative whole fraction).text, isIdentifierStart c = false := by
  cases h with
  | float negative whole_valid fraction_valid =>
    have hdigits : ∀ {ds : List Char}, (∀ d ∈ ds, d.isDigit = true) →
        ∀ d ∈ ds, isIdentifierStart d = false :=
      fun hds d hd => (isIdentifierStart_of_isDigit (hds d hd)).1
    have hsign : ∀ c ∈ sign negative, isIdentifierStart c = false := by
      cases negative with
      | true => exact List.forall_mem_singleton.2 (by decide)
      | false => exact List.forall_mem_nil _
    exact List.forall_mem_append.2 ⟨List.forall_mem_append.2 ⟨hsign, hdigits whole_valid.2⟩,
      List.forall_mem_cons.2 ⟨by decide, hdigits fraction_valid⟩⟩

/-- There is no letter in a text with one token if this is a number with a point. -/
theorem Token.isIdentifierStart_of_mem {source : String} {x : Binary64} {span : Span}
    (h : (tokenize source).1 = [⟨.float x, span⟩]) :
    ∀ c ∈ source.toList, isIdentifierStart c = false := by
  have hblank : ∀ {blanks : List Char}, (∀ c ∈ blanks, isWhiteSpace c = true) →
      ∀ c ∈ blanks, isIdentifierStart c = false := by
    intro blanks hblanks c hc
    have hstart := isTokenStart_of_isWhiteSpace (hblanks c hc)
    simp only [isTokenStart, Bool.or_eq_false_iff] at hstart
    exact hstart.1.1.1.1
  -- A text with one token is a lexeme with blanks around it.
  have hvalid := Layout.isValid_ofText source.toList
  rw [Layout.tokens_tokenize] at h
  rw [← Layout.text_ofText source.toList]
  generalize Layout.ofText source.toList = L at *
  cases hvalid with
  | done => exact absurd h (by simp [Layout.tokens])
  | @piece front l rest hfront hl hends hrest =>
    cases hrest with
    | piece => exact absurd h (by simp [Layout.tokens])
    | done hback =>
      have hvalue : (l.value .empty).1 = .float x := congrArg Token.value (List.cons.inj h).1
      have hkind : l.kind = .float := by
        rw [← l.kind_value .empty, hvalue]
        rfl
      obtain ⟨negative, whole, fraction, rfl⟩ := l.kind_eq_float_iff.1 hkind
      exact List.forall_mem_append.2 ⟨List.forall_mem_append.2 ⟨hblank hfront,
        Lexeme.isIdentifierStart_of_mem_float hl⟩, hblank hback⟩

/-- A whole number is scanned again from its payload. So is a number with a point, bit by bit and
with its sign, just if it is zero, or at least `0.0001` and less than `10 ^ 16`; the payload of any
other one is something else than one number with a point. -/
theorem tokenize_payload :
    (∀ n : Int64, (Value.integer n).ScansBack) ∧
    (∀ source, ∀ t ∈ (tokenize source).1, ∀ x, t.value = .float x → x.isNaN = false) ∧
    ∀ x : Binary64, x.isNaN = false →
      ((Value.float x).ScansBack ↔ x.IsModerate) ∧
      (¬ x.IsModerate → ∀ y span, (tokenize (Value.float x).text).1 ≠ [⟨.float y, span⟩]) := by
  refine ⟨Value.scansBack_integer, fun source t ht x hx => ?_, fun x hx => ?_⟩
  · exact (hx ▸ Token.isRead_of_mem_tokenize ht).isNaN_eq_false
  · have hother : ¬ x.IsModerate →
        ∀ y span, (tokenize (Value.float x).text).1 ≠ [⟨.float y, span⟩] := by
      intro hmoderate y span htokens
      obtain ⟨c, hc, hletter⟩ := Binary64.exists_letter hmoderate hx
      rw [Token.isIdentifierStart_of_mem htokens c hc] at hletter
      exact absurd hletter (by decide)
    refine ⟨⟨fun hscans => ?_, fun hmoderate => ?_⟩, hother⟩
    · by_contra hmoderate
      exact hother hmoderate x _ (congrArg Prod.fst hscans)
    · obtain ⟨whole, fraction, hvalid, htext, hvalue⟩ := hmoderate.exists_lexeme hx
      have htokens := hvalid.tokenize_eq (Value.float x).text htext
      rw [Lexeme.value, hvalue] at htokens
      exact htokens

/-- The double that is nearest to `0.0001` is written out in full, and `10 ^ 16` is not. -/
theorem tokenize_payload_limits :
    let source := "-0.0001 10000000000000000."
    let x : Binary64 := ⟨0xBF1A36E2EB1C432D⟩
    let y : Binary64 := ⟨0x4341C37937E08000⟩
    (tokenize source).1 = [⟨.float x, ⟨0, 7⟩⟩, ⟨.float y, ⟨8, 26⟩⟩] ∧ x.isNaN = false ∧
      y.isNaN = false ∧ (Value.float x).ScansBack ∧ ¬ (Value.float y).ScansBack ∧
      (tokenize (Value.float y).text).1 ≠ [⟨.float y, ⟨0, 4⟩⟩] := by
  intro source x y
  have htokens : (tokenize source).1 = [⟨.float x, ⟨0, 7⟩⟩, ⟨.float y, ⟨8, 26⟩⟩] := by
    decide +kernel
  have hx_moderate : x.IsModerate := x.isModerate_iff.2 (by decide +kernel)
  have hy_moderate : ¬ y.IsModerate := mt y.isModerate_iff.1 (by decide +kernel)
  obtain ⟨-, hnumber, hscans⟩ := tokenize_payload
  have hx := hnumber source ⟨.float x, ⟨0, 7⟩⟩ (by rw [htokens]; simp) x rfl
  have hy := hnumber source ⟨.float y, ⟨8, 26⟩⟩ (by rw [htokens]; simp) y rfl
  exact ⟨htokens, hx, hy, (hscans x hx).1.2 hx_moderate, mt (hscans y hy).1.1 hy_moderate,
    (hscans y hy).2 hy_moderate y _⟩

/-- A number with a power of ten is spoilt by it, or falls into several tokens. -/
example : (tokenize "1e16").1 = [⟨.error "1e16" .malformedNumber, ⟨0, 4⟩⟩] ∧
    (tokenize "1.5e-5").1.map Token.kind = [.float, .identifier, .integer] := by
  decide +kernel

end LogicLexer
