import LogicLexer.Diagnostic
import LogicLexer.Proofs.Lexeme.Grammar
import LogicLexer.Proofs.Slice
import LogicLexer.Scanner

/-!
# Tokens are the longest words

A scanner stops exactly where only blanks are left. Otherwise it hands out the longest front of the
text behind the blanks that is a word of one of the lexeme languages, and the one language that has
the word decides the kind of the token and its issue (`next_isLongestFront`).
-/

namespace LogicLexer

open Text

/-- The number that the digits of a word write, less than zero behind a minus sign. -/
def numeral : List Char → Int
  | '-' :: ds => -(Nat.ofDigitChars 10 ds 0 : Int)
  | ds => Nat.ofDigitChars 10 ds 0

/-- The kind of token that a word of a form makes, and its issue. A whole number has one if it
lies beyond 64 bits. -/
def Form.verdict (w : List Char) : Form → Kind × Option Issue
  | identifier => (.identifier, none)
  | integer =>
    if -9223372036854775808 ≤ numeral w ∧ numeral w ≤ 9223372036854775807 then (.integer, none)
    else (.error, some .integerOverflow)
  | float => (.float, none)
  | malformedNumber => (.error, some .malformedNumber)
  | logicalAnd => (.logicalAnd, none)
  | logicalOr => (.logicalOr, none)
  | bitwiseAnd => (.bitwiseAnd, none)
  | bitwiseOr => (.bitwiseOr, none)
  | unrecognised => (.error, some .unrecognisedSymbol)

/-- The number of a word of digits with or without a minus sign. -/
theorem numeral_sign_append {negative : Bool} {ds : List Char} (h : IsDigits ds) :
    numeral (Lexeme.sign negative ++ ds) =
      if negative then -(Nat.ofDigitChars 10 ds 0 : Int) else Nat.ofDigitChars 10 ds 0 := by
  cases negative with
  | true => rfl
  | false =>
    have hhead : ∀ es, ds ≠ '-' :: es := by
      rintro es rfl
      exact absurd (h.2 '-' (by simp)) (by decide)
    show numeral ds = _
    unfold numeral
    split
    · rename_i es
      exact absurd rfl (hhead es)
    · rfl

/-- Whether the number that a word writes has 64 bits decides what the word stands for. -/
theorem Lexeme.integerValue_eq {negative : Bool} {ds : List Char} (h : IsDigits ds) :
    integerValue negative ds =
      if -9223372036854775808 ≤ numeral (sign negative ++ ds) ∧
          numeral (sign negative ++ ds) ≤ 9223372036854775807 then
        .integer (Int64.ofInt (numeral (sign negative ++ ds)))
      else .error (String.ofList (sign negative ++ ds)) .integerOverflow := by
  have hmin : Int64.minValue.toInt = -9223372036854775808 := by decide
  have hmax : Int64.maxValue.toInt = 9223372036854775807 := by decide
  unfold integerValue
  rw [hmin, hmax, numeral_sign_append h]

/-- A well-formed lexeme makes a token of the kind and issue that its form and text tell. -/
theorem Lexeme.IsValid.verdict_text {l : Lexeme} (h : l.IsValid) (symbols : SymbolTable)
    (span : Span) :
    ((Token.mk (l.value symbols).1 span).kind,
      (Token.mk (l.value symbols).1 span).diagnostic?.map Diagnostic.issue) =
      l.form.verdict l.text := by
  cases h with
  | @integer negative ds digits_valid =>
    by_cases hrange : -9223372036854775808 ≤ numeral (sign negative ++ ds) ∧
        numeral (sign negative ++ ds) ≤ 9223372036854775807
    · have hvalue : integerValue negative ds = .integer (Int64.ofInt (numeral _)) :=
        (integerValue_eq digits_valid).trans (if_pos hrange)
      have hverdict : Form.verdict (sign negative ++ ds) .integer = (.integer, none) :=
        if_pos hrange
      simp only [value, hvalue]
      exact hverdict.symm
    · have hvalue : integerValue negative ds = .error _ .integerOverflow :=
        (integerValue_eq digits_valid).trans (if_neg hrange)
      have hverdict : Form.verdict (sign negative ++ ds) .integer =
          (.error, some .integerOverflow) := if_neg hrange
      simp only [value, hvalue]
      exact hverdict.symm
  | _ => rfl

namespace Scanner

/-- The scanner stands behind the part of its text that it has read. -/
theorem exists_splitAtByte? (s : Scanner) :
    ∃ before, splitAtByte? s.position s.source.toList = some (before, s.rest) := by
  obtain ⟨before, happ, hlen⟩ := s.splits
  exact ⟨before, splitAtByte?_eq_some_iff.2 ⟨happ, hlen⟩⟩

/-- A span behind some of the text that is left covers what stands there. -/
theorem textIn?_of_rest_eq (s : Scanner) {blanks w after : List Char}
    (h : s.rest = blanks ++ w ++ after) :
    (Span.mk (s.position + byteLength blanks)
      (s.position + byteLength blanks + byteLength w)).textIn? s.source =
        some (String.ofList w) := by
  obtain ⟨before, happ, hlen⟩ := s.splits
  refine Span.textIn?_eq_some_iff.2 ⟨before ++ blanks, after, ?_, ?_, ?_⟩
  · rw [String.toList_ofList, ← happ, h]
    simp only [List.append_assoc]
  · rw [byteLength_append, hlen]
  · rw [byteLength_append, hlen, String.toList_ofList]

/-- The scanner stops exactly where only blanks are left. Otherwise the next token covers the
longest front of the text behind the blanks that is a word of any form, just one form has that
word, and this form and the word decide the kind of the token and its issue. The forms have no word
in common, and no blank is a letter, a numeric character or an underscore. -/
theorem next_isLongestFront (s : Scanner) :
    (∃ before, splitAtByte? s.position s.source.toList = some (before, s.rest)) ∧
    (s.next.1 = none ↔ ∀ c ∈ s.rest, isWhiteSpace c = true) ∧
    (∀ t, s.next.1 = some t → ∃ w f,
      IsLongestFront Form.words w (s.rest.dropWhile isWhiteSpace) ∧
      t.span.start = s.position + byteLength (s.rest.takeWhile isWhiteSpace) ∧
      t.span.stop = t.span.start + byteLength w ∧
      t.span.textIn? s.source = some (String.ofList w) ∧
      (∀ g : Form, w ∈ g.language ↔ g = f) ∧
      (t.kind, t.diagnostic?.map Diagnostic.issue) = f.verdict w) ∧
    (∀ (f g : Form) (w : List Char), w ∈ f.language → w ∈ g.language → f = g) ∧
    (∀ c, isWhiteSpace c = true → isIdentifierContinue c = false) := by
  refine ⟨s.exists_splitAtByte?, s.next_eq_none_iff, fun t ht => ?_,
    fun f g w => Lexeme.form_unique, fun c => isIdentifierContinue_of_isWhiteSpace⟩
  cases hrest : s.rest.dropWhile isWhiteSpace with
  | nil => simp [next_of_eq_nil hrest] at ht
  | cons c cs =>
    -- The token is the lexeme that is read behind the blanks.
    have hblank : isWhiteSpace c = false :=
      stops_cons.1 (hrest ▸ stops_dropWhile isWhiteSpace s.rest)
    obtain ⟨hvalid, -⟩ := Lexeme.isValid_endsAt_read hblank cs
    obtain rfl : _ = t := by simpa [next_of_eq_cons hrest] using ht
    have hsplit : s.rest = s.rest.takeWhile isWhiteSpace ++ (Lexeme.read c cs).1.text ++
        (Lexeme.read c cs).2 := by
      rw [List.append_assoc, Lexeme.text_read_append, ← hrest, List.takeWhile_append_dropWhile]
    refine ⟨(Lexeme.read c cs).1.text, (Lexeme.read c cs).1.form,
      Lexeme.isLongestFront_read hblank cs, rfl, rfl, s.textIn?_of_rest_eq hsplit, fun g => ?_,
      hvalid.verdict_text _ _⟩
    constructor
    · exact fun hg => Lexeme.form_unique hg hvalid.text_mem_language
    · rintro rfl
      exact hvalid.text_mem_language

end Scanner

end LogicLexer
