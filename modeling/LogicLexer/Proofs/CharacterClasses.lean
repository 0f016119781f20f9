import LogicLexer.Lexeme

/-!
# How the character classes meet

The reader of lexemes tells its cases apart by one character at a time, so what it does rests on
which classes share a character. Blanks are disjoint from all that continues an identifier
(`isIdentifierContinue_of_isWhiteSpace`) and from all that starts a token
(`isTokenStart_of_isWhiteSpace`); digits continue an identifier and start none. The classes are
tables of Unicode, so these are checked on code points: the blanks are few of them, and digits are
ASCII.
-/

namespace LogicLexer

open Text

/-- If no member of one class is in a second, then no member of the second is in the first. -/
theorem Text.disjoint_symm (p q : Char → Bool) (h : ∀ c, p c = true → q c = false) {c : Char}
    (hq : q c = true) : p c = false := by
  cases hp : p c with
  | false => rfl
  | true => exact hq.symm.trans (h c hp)

/-! ## Blanks -/

/-- The code points of the blank characters. -/
def Text.whiteSpacePoints : List Nat :=
  whiteSpaceRanges.flatMap fun (first, last) => List.range' first (last + 1 - first)

/-- What holds of the code points of the blanks holds of every blank. -/
theorem Text.of_isWhiteSpace {P : Char → Prop} (hP : ∀ n ∈ whiteSpacePoints, P (Char.ofNat n))
    {c : Char} (h : isWhiteSpace c = true) : P c := by
  simp only [isWhiteSpace, List.any_eq_true, Bool.and_eq_true, decide_eq_true_eq] at h
  obtain ⟨⟨first, last⟩, hmem, hfirst, hlast⟩ := h
  -- The character is given back by its code point, which lies in one of the ranges.
  have hpoint : c.toNat ∈ whiteSpacePoints := by
    refine List.mem_flatMap.2 ⟨(first, last), hmem, ?_⟩
    rw [List.mem_range'_1]
    omega
  have hc := hP c.toNat hpoint
  rw [Char.ofNat_toNat] at hc
  exact hc

/-- No blank continues an identifier. -/
theorem isIdentifierContinue_of_isWhiteSpace {c : Char} (h : isWhiteSpace c = true) :
    isIdentifierContinue c = false :=
  of_isWhiteSpace (P := fun c => isIdentifierContinue c = false) (by decide +kernel) h

/-- No blank starts a token. -/
theorem isTokenStart_of_isWhiteSpace {c : Char} (h : isWhiteSpace c = true) :
    isTokenStart c = false :=
  of_isWhiteSpace (P := fun c => isTokenStart c = false) (by decide +kernel) h

/-- What continues an identifier is no blank. -/
theorem isWhiteSpace_of_isIdentifierContinue {c : Char} (h : isIdentifierContinue c = true) :
    isWhiteSpace c = false :=
  disjoint_symm isWhiteSpace isIdentifierContinue
    (fun _ => isIdentifierContinue_of_isWhiteSpace) h

/-! ## Digits and identifiers -/

/-- A digit starts no identifier, but continues one. -/
theorem isIdentifierStart_of_isDigit {c : Char} (h : c.isDigit = true) :
    isIdentifierStart c = false ∧ isIdentifierContinue c = true := by
  -- Digits are ASCII, so the tables are asked for these code points only.
  have hpoints : ∀ n < 0x80, (Char.ofNat n).isDigit = true →
      isIdentifierStart (Char.ofNat n) = false ∧ isIdentifierContinue (Char.ofNat n) = true := by
    decide +kernel
  have hlt : c.toNat < 0x80 := by
    have hc := Char.isDigit_iff_toNat.1 h
    have : '9'.toNat < 0x80 := by decide
    omega
  have hc := hpoints c.toNat hlt
  rw [Char.ofNat_toNat] at hc
  exact hc h

/-- What starts an identifier is no digit. -/
theorem isDigit_of_isIdentifierStart {c : Char} (h : isIdentifierStart c = true) :
    c.isDigit = false :=
  disjoint_symm Char.isDigit isIdentifierStart (fun _ hd => (isIdentifierStart_of_isDigit hd).1) h

/-- What starts an identifier continues one. -/
theorem isIdentifierContinue_of_isIdentifierStart {c : Char} (h : isIdentifierStart c = true) :
    isIdentifierContinue c = true := by
  simp only [isIdentifierStart, Bool.or_eq_true] at h
  rcases h with h | h
  · simp [isIdentifierContinue, h]
  · simp [isIdentifierContinue, h]

/-- A digit starts a token. -/
theorem isTokenStart_of_isDigit {c : Char} (h : c.isDigit = true) : isTokenStart c = true := by
  simp [isTokenStart, h]

/-- What continues an unrecognised symbol is neither a blank nor the start of a token. -/
theorem isSymbolContinue_iff {c : Char} :
    isSymbolContinue c = true ↔ isWhiteSpace c = false ∧ isTokenStart c = false := by
  simp [isSymbolContinue]

/-- What continues an unrecognised symbol is no digit. -/
theorem isDigit_of_isSymbolContinue {c : Char} (h : isSymbolContinue c = true) :
    c.isDigit = false :=
  disjoint_symm Char.isDigit isSymbolContinue
    (fun _ hd => by simp [isSymbolContinue, isTokenStart_of_isDigit hd]) h

end LogicLexer
