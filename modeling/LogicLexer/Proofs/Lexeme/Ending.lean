import LogicLexer.Proofs.CharacterClasses
import LogicLexer.Proofs.Text.Run

/-!
# Where a lexeme ends

What follows a lexeme decides by its first character alone whether the lexeme is over:
`Lexeme.extendedBy` lists the characters that would make it longer, or make another lexeme of it.
`read_eq_iff` says that reading gives a lexeme and a rest exactly when the lexeme is well formed,
the two are the text, and the rest does not extend the lexeme. Three consequences carry the theory
of scanning: the end of a text and a blank end every lexeme (`endsAt_nil`,
`endsAt_of_isWhiteSpace`), and more text behind a rest that is not empty changes nothing
(`endsAt_append_iff`).

The proof first says what reading does for each kind of first character (`read_of_isIdentifierStart`
and the lemmas behind it); both directions go through the forms of lexemes by these.
-/

namespace LogicLexer

open Text

/-- Whether a character starts an unrecognised symbol, if no digit follows a minus sign. -/
def isSymbolStart (c : Char) : Bool :=
  !isWhiteSpace c && !isIdentifierStart c && !c.isDigit && c != '&' && c != '|'

/-- At least one digit, and nothing else. -/
def IsDigits (ds : List Char) : Prop :=
  ds ≠ [] ∧ ∀ d ∈ ds, d.isDigit = true

/-- Digits hold nothing but digits. -/
theorem IsDigits.notMem {ds : List Char} (h : IsDigits ds) {c : Char} (hc : c.isDigit = false) :
    c ∉ ds := fun hmem =>
  Bool.false_ne_true (hc.symm.trans (h.2 c hmem))

/-- A number is written with digits. -/
theorem isDigits_toDigits (n : Nat) : IsDigits (Nat.toDigits 10 n) :=
  ⟨Nat.toDigits_ne_nil, fun _ hc => Nat.isDigit_of_mem_toDigits (by decide) (by decide) hc⟩

namespace Lexeme

/-! ## Well-formed lexemes and their ends -/

/-- The lexemes that stand for a piece of text of their form. -/
inductive IsValid : Lexeme → Prop
  /-- A name starts as an identifier and continues as one. -/
  | identifier {c : Char} {cs : List Char} (start : isIdentifierStart c = true)
      (continues : ∀ d ∈ cs, isIdentifierContinue d = true) : IsValid (identifier (c :: cs))
  /-- A whole number has digits. -/
  | integer (negative : Bool) {digits : List Char} (digits_valid : IsDigits digits) :
      IsValid (integer negative digits)
  /-- A number with a point has digits in front of the point and only digits behind it. -/
  | float (negative : Bool) {whole fraction : List Char} (whole_valid : IsDigits whole)
      (fraction_valid : ∀ d ∈ fraction, d.isDigit = true) : IsValid (float negative whole fraction)
  /-- A malformed number is digits and an identifier. -/
  | malformedNumber {digits cs : List Char} {c : Char} (digits_valid : IsDigits digits)
      (start : isIdentifierStart c = true) (continues : ∀ d ∈ cs, isIdentifierContinue d = true) :
      IsValid (malformedNumber (digits ++ c :: cs))
  | logicalAnd : IsValid logicalAnd
  | logicalOr : IsValid logicalOr
  | bitwiseAnd : IsValid bitwiseAnd
  | bitwiseOr : IsValid bitwiseOr
  /-- An unrecognised symbol starts as no other lexeme and goes on up to a blank or a start. -/
  | unrecognised {c : Char} {cs : List Char} (start : isSymbolStart c = true)
      (continues : ∀ d ∈ cs, isSymbolContinue d = true) : IsValid (unrecognised (c :: cs))

/-- A well-formed lexeme has a text. -/
theorem IsValid.text_ne_nil {l : Lexeme} (h : l.IsValid) : l.text ≠ [] := by
  cases h with
  | integer negative digits_valid => simp [text, digits_valid.1]
  | _ => simp [text]

/-- No blank stands inside a lexeme. -/
theorem IsValid.isWhiteSpace_of_mem {l : Lexeme} (h : l.IsValid) :
    ∀ c ∈ l.text, isWhiteSpace c = false := by
  -- The parts of lexemes hold none: signs, words, digits and the characters of operators.
  have hsign : ∀ negative, ∀ c ∈ sign negative, isWhiteSpace c = false := by
    intro negative c hc
    cases negative with
    | true =>
      rw [List.mem_singleton.1 hc]
      decide
    | false => exact absurd hc List.not_mem_nil
  have hword : ∀ {c : Char} {cs : List Char}, isIdentifierStart c = true →
      (∀ d ∈ cs, isIdentifierContinue d = true) → ∀ d ∈ c :: cs, isWhiteSpace d = false :=
    fun hc hcs => List.forall_mem_cons.2 ⟨isWhiteSpace_of_isIdentifierContinue
      (isIdentifierContinue_of_isIdentifierStart hc),
      fun d hd => isWhiteSpace_of_isIdentifierContinue (hcs d hd)⟩
  have hdigits : ∀ {ds : List Char}, (∀ d ∈ ds, d.isDigit = true) →
      ∀ d ∈ ds, isWhiteSpace d = false :=
    fun hds d hd => isWhiteSpace_of_isIdentifierContinue (isIdentifierStart_of_isDigit (hds d hd)).2
  have hand : isWhiteSpace '&' = false := by decide
  have hor : isWhiteSpace '|' = false := by decide
  cases h with
  | identifier start continues => exact hword start continues
  | integer negative digits_valid =>
    exact List.forall_mem_append.2 ⟨hsign negative, hdigits digits_valid.2⟩
  | float negative whole_valid fraction_valid =>
    refine List.forall_mem_append.2 ⟨List.forall_mem_append.2 ⟨hsign negative,
      hdigits whole_valid.2⟩, List.forall_mem_cons.2 ⟨by decide, hdigits fraction_valid⟩⟩
  | malformedNumber digits_valid start continues =>
    exact List.forall_mem_append.2 ⟨hdigits digits_valid.2, hword start continues⟩
  | unrecognised start continues =>
    refine List.forall_mem_cons.2 ⟨?_, fun d hd => (isSymbolContinue_iff.1 (continues d hd)).1⟩
    simp only [isSymbolStart, Bool.and_eq_true, Bool.not_eq_true'] at start
    exact start.1.1.1.1
  | logicalAnd => exact List.forall_mem_cons.2 ⟨hand, List.forall_mem_singleton.2 hand⟩
  | logicalOr => exact List.forall_mem_cons.2 ⟨hor, List.forall_mem_singleton.2 hor⟩
  | bitwiseAnd => exact List.forall_mem_singleton.2 hand
  | bitwiseOr => exact List.forall_mem_singleton.2 hor

/-- Whether a character behind a lexeme makes it longer, or makes it another lexeme. -/
def extendedBy : Lexeme → Char → Bool
  | identifier _, c | malformedNumber _, c => isIdentifierContinue c
  | integer negative _, c => c.isDigit || c == '.' || (!negative && isIdentifierStart c)
  | float .., c => c.isDigit
  | logicalAnd, _ | logicalOr, _ => false
  | bitwiseAnd, c => c == '&'
  | bitwiseOr, c => c == '|'
  | unrecognised text, c => isSymbolContinue c || (text == ['-'] && c.isDigit)

/-- The text behind a lexeme leaves it as it is. -/
def EndsAt (l : Lexeme) (rest : List Char) : Prop :=
  Stops l.extendedBy rest

/-- Every lexeme ends at the end of a text. -/
theorem endsAt_nil (l : Lexeme) : l.EndsAt [] :=
  stops_nil _

/-- A blank does not extend a lexeme. -/
theorem extendedBy_of_isWhiteSpace (l : Lexeme) {c : Char} (h : isWhiteSpace c = true) :
    l.extendedBy c = false := by
  have hcontinue := isIdentifierContinue_of_isWhiteSpace h
  have htoken := isTokenStart_of_isWhiteSpace h
  simp only [isTokenStart, Bool.or_eq_false_iff] at htoken
  obtain ⟨⟨⟨⟨hstart, hdigit⟩, -⟩, hand⟩, hor⟩ := htoken
  have hpoint : (c == '.') = false :=
    of_isWhiteSpace (P := fun c => (c == '.') = false) (by decide +kernel) h
  cases l <;> simp [extendedBy, hcontinue, hstart, hdigit, hand, hor, hpoint, isSymbolContinue, h]

/-- Every lexeme ends at a blank. -/
theorem endsAt_of_isWhiteSpace (l : Lexeme) {c : Char} {cs : List Char}
    (h : isWhiteSpace c = true) : l.EndsAt (c :: cs) :=
  stops_cons.2 (l.extendedBy_of_isWhiteSpace h)

/-- Of the text behind a lexeme only the first character decides whether the lexeme ends. -/
theorem endsAt_append_iff (l : Lexeme) {xs ys : List Char} (h : xs ≠ []) :
    l.EndsAt (xs ++ ys) ↔ l.EndsAt xs := by
  cases xs with
  | nil => exact absurd rfl h
  | cons c cs => simp [EndsAt]

/-- A lexeme that ends at a text ends at each front part of it. -/
theorem EndsAt.of_append {l : Lexeme} {xs ys : List Char} (h : l.EndsAt (xs ++ ys)) :
    l.EndsAt xs := by
  cases xs with
  | nil => exact l.endsAt_nil
  | cons c cs => exact (l.endsAt_append_iff (by simp)).1 h

/-- A lexeme that ends at a text ends at each text that starts alike or with a blank. -/
theorem EndsAt.of_head? {l : Lexeme} {xs ys : List Char} (h : l.EndsAt xs)
    (hys : ∀ c ∈ ys.head?, c ∈ xs.head? ∨ isWhiteSpace c = true) : l.EndsAt ys := by
  intro c hc
  rcases hys c hc with hsame | hblank
  · exact h c hsame
  · exact l.extendedBy_of_isWhiteSpace hblank

/-- Where a whole number ends, neither more digits follow, nor a point, nor a letter behind digits
without a sign. -/
theorem endsAt_integer_iff {negative : Bool} {digits rest : List Char} :
    (integer negative digits).EndsAt rest ↔
      Stops Char.isDigit rest ∧ Stops (· == '.') rest ∧
        (negative = false → Stops isIdentifierStart rest) := by
  cases rest with
  | nil => simp [EndsAt]
  | cons c cs => cases negative <;> simp [EndsAt, extendedBy, and_assoc]

/-- Where an unrecognised symbol ends, it is not continued, nor is a lone minus sign followed by a
digit. -/
theorem endsAt_unrecognised_iff {text rest : List Char} :
    (unrecognised text).EndsAt rest ↔
      Stops isSymbolContinue rest ∧ (text = ['-'] → Stops Char.isDigit rest) := by
  cases rest with
  | nil => simp [EndsAt]
  | cons c cs => simp [EndsAt, extendedBy]

/-! ## What reading does for each first character -/

/-- A character that starts an identifier reads as one. -/
theorem read_of_isIdentifierStart {c : Char} (h : isIdentifierStart c = true) (cs : List Char) :
    read c cs =
      (identifier (c :: cs.takeWhile isIdentifierContinue), cs.dropWhile isIdentifierContinue) := by
  unfold read
  rw [if_pos h]

/-- Digits in front of no identifier read as a number. -/
theorem read_digits_of_stops {c : Char} {cs rest : List Char} (hdigits : IsDigits (c :: cs))
    (hdigit : Stops Char.isDigit rest) (hstart : Stops isIdentifierStart rest) :
    read c (cs ++ rest) = readNumber false (c :: cs) rest := by
  have hc : c.isDigit = true := hdigits.2 c (by simp)
  have hcs : ∀ d ∈ cs, d.isDigit = true := fun d hd => hdigits.2 d (by simp [hd])
  unfold read
  rw [if_neg (by simp [(isIdentifierStart_of_isDigit hc).1]), if_pos hc]
  dsimp only
  rw [takeWhile_append_of_stops hcs hdigit, dropWhile_append_of_stops hcs hdigit,
    any_head?_eq_false_iff.2 hstart]
  rfl

/-- Digits in front of an identifier read as a malformed number. -/
theorem read_digits_of_isIdentifierStart {c d : Char} {cs ds : List Char}
    (hdigits : IsDigits (c :: cs)) (hstart : isIdentifierStart d = true) :
    read c (cs ++ d :: ds) =
      (malformedNumber (c :: cs ++ d :: ds.takeWhile isIdentifierContinue),
        ds.dropWhile isIdentifierContinue) := by
  have hc : c.isDigit = true := hdigits.2 c (by simp)
  have hcs : ∀ d ∈ cs, d.isDigit = true := fun d hd => hdigits.2 d (by simp [hd])
  have hstop : Stops Char.isDigit (d :: ds) := stops_cons.2 (isDigit_of_isIdentifierStart hstart)
  have hcontinue := isIdentifierContinue_of_isIdentifierStart hstart
  unfold read
  rw [if_neg (by simp [(isIdentifierStart_of_isDigit hc).1]), if_pos hc]
  dsimp only
  rw [takeWhile_append_of_stops hcs hstop, dropWhile_append_of_stops hcs hstop]
  simp [hstart, hcontinue]

/-- A minus sign and digits read as a number, whatever follows. -/
theorem read_minus_digits {ds rest : List Char} (hdigits : IsDigits ds)
    (hdigit : Stops Char.isDigit rest) : read '-' (ds ++ rest) = readNumber true ds rest := by
  have hhead : (ds ++ rest).head?.any Char.isDigit = true := by
    obtain ⟨hne, hall⟩ := hdigits
    cases ds with
    | nil => exact absurd rfl hne
    | cons d ds => exact hall d (by simp)
  unfold read
  rw [if_neg (by decide), if_neg (by decide), if_pos ⟨rfl, hhead⟩,
    takeWhile_append_of_stops hdigits.2 hdigit, dropWhile_append_of_stops hdigits.2 hdigit]

/-- An ampersand reads as an operator. -/
theorem read_ampersand (cs : List Char) :
    read '&' cs = readOperator '&' logicalAnd bitwiseAnd cs := by
  unfold read
  rw [if_neg (by decide), if_neg (by decide), if_neg (by simp), if_pos rfl]

/-- A bar reads as an operator. -/
theorem read_bar (cs : List Char) : read '|' cs = readOperator '|' logicalOr bitwiseOr cs := by
  unfold read
  rw [if_neg (by decide), if_neg (by decide), if_neg (by simp), if_neg (by decide), if_pos rfl]

/-- A character that starts no other lexeme reads as an unrecognised symbol. So does a minus sign
that no digit follows. -/
theorem read_of_isSymbolStart {c : Char} {cs : List Char} (h : isSymbolStart c = true)
    (hminus : c = '-' → Stops Char.isDigit cs) :
    read c cs =
      (unrecognised (c :: cs.takeWhile isSymbolContinue), cs.dropWhile isSymbolContinue) := by
  simp only [isSymbolStart, Bool.and_eq_true, Bool.not_eq_true', bne_iff_ne, ne_eq] at h
  obtain ⟨⟨⟨⟨-, hstart⟩, hdigit⟩, hand⟩, hor⟩ := h
  have hneg : ¬ (c = '-' ∧ cs.head?.any Char.isDigit = true) := by
    rintro ⟨hc, hany⟩
    rw [any_head?_eq_false_iff.2 (hminus hc)] at hany
    exact Bool.false_ne_true hany
  unfold read
  rw [if_neg (by simp [hstart]), if_neg (by simp [hdigit]), if_neg hneg, if_neg hand, if_neg hor]

/-- A point behind the digits of a number goes on with its fraction. -/
theorem readNumber_point (negative : Bool) (digits cs : List Char) :
    readNumber negative digits ('.' :: cs) =
      (float negative digits (cs.takeWhile Char.isDigit), cs.dropWhile Char.isDigit) :=
  rfl

/-- Without a point the digits of a number are all of it. -/
theorem readNumber_of_stops (negative : Bool) (digits : List Char) {cs : List Char}
    (h : Stops (· == '.') cs) : readNumber negative digits cs = (integer negative digits, cs) := by
  unfold readNumber
  split
  · exact absurd h (by simp)
  · rfl

/-- A repeated character makes the double operator. -/
theorem readOperator_same (c : Char) (double single : Lexeme) (cs : List Char) :
    readOperator c double single (c :: cs) = (double, cs) := by
  simp [readOperator]

/-- An operator's character that is not repeated makes the single operator. -/
theorem readOperator_of_stops {c : Char} (double single : Lexeme) {cs : List Char}
    (h : Stops (· == c) cs) : readOperator c double single cs = (single, cs) := by
  cases cs with
  | nil => rfl
  | cons d ds =>
    have hd : d ≠ c := by simpa using h
    simp [readOperator, hd]

/-! ## What is read is well formed and ends -/

/-- The rest of a number is read up to where it ends. -/
theorem isValid_endsAt_readNumber {negative : Bool} {digits cs : List Char}
    (hdigits : IsDigits digits) (hdigit : Stops Char.isDigit cs)
    (hstart : negative = false → Stops isIdentifierStart cs) :
    (readNumber negative digits cs).1.IsValid ∧
      (readNumber negative digits cs).1.EndsAt (readNumber negative digits cs).2 := by
  by_cases hpoint : Stops (· == '.') cs
  · rw [readNumber_of_stops negative digits hpoint]
    exact ⟨.integer negative hdigits, endsAt_integer_iff.2 ⟨hdigit, hpoint, hstart⟩⟩
  · obtain ⟨c, ds, rfl, hc⟩ := not_stops_iff.1 hpoint
    obtain rfl : c = '.' := by simpa using hc
    rw [readNumber_point]
    exact ⟨.float negative hdigits fun d hd => of_mem_takeWhile hd, stops_dropWhile _ _⟩

/-- An operator is read up to where it ends. -/
theorem isValid_endsAt_readOperator {c : Char} {double single : Lexeme} (hdouble : double.IsValid)
    (hsingle : single.IsValid) (hlong : ∀ d, double.extendedBy d = false)
    (hshort : ∀ d, single.extendedBy d = (d == c)) (cs : List Char) :
    (readOperator c double single cs).1.IsValid ∧
      (readOperator c double single cs).1.EndsAt (readOperator c double single cs).2 := by
  by_cases hsame : Stops (· == c) cs
  · rw [readOperator_of_stops double single hsame]
    refine ⟨hsingle, fun d hd => ?_⟩
    rw [hshort d]
    exact hsame d hd
  · obtain ⟨d, ds, rfl, hd⟩ := not_stops_iff.1 hsame
    obtain rfl : d = c := by simpa using hd
    rw [readOperator_same]
    exact ⟨hdouble, fun d _ => hlong d⟩

/-- An unrecognised symbol is read up to where it ends. -/
theorem endsAt_unrecognised {c : Char} {cs : List Char} (hminus : c = '-' → Stops Char.isDigit cs) :
    (unrecognised (c :: cs.takeWhile isSymbolContinue)).EndsAt (cs.dropWhile isSymbolContinue) := by
  refine endsAt_unrecognised_iff.2 ⟨stops_dropWhile _ _, fun hminus_alone => ?_⟩
  obtain ⟨rfl, hnone⟩ := List.cons.inj hminus_alone
  -- Nothing was taken, so the character behind the minus sign is the first one of the rest.
  have hcs := List.takeWhile_append_dropWhile (p := isSymbolContinue) (l := cs)
  rw [hnone, List.nil_append] at hcs
  rw [hcs]
  exact hminus rfl

/-- Reading gives a well-formed lexeme and stops where it ends. -/
theorem isValid_endsAt_read {c : Char} (hblank : isWhiteSpace c = false) (cs : List Char) :
    (read c cs).1.IsValid ∧ (read c cs).1.EndsAt (read c cs).2 := by
  by_cases hstart : isIdentifierStart c = true
  · rw [read_of_isIdentifierStart hstart]
    exact ⟨.identifier hstart fun d hd => of_mem_takeWhile hd, stops_dropWhile _ _⟩
  by_cases hdigit : c.isDigit = true
  · -- A letter behind the digits spoils them.
    obtain ⟨ds, rest, rfl, hall, hstop⟩ := exists_run Char.isDigit cs
    have hdigits : IsDigits (c :: ds) := ⟨by simp, List.forall_mem_cons.2 ⟨hdigit, hall⟩⟩
    by_cases hletter : Stops isIdentifierStart rest
    · rw [read_digits_of_stops hdigits hstop hletter]
      exact isValid_endsAt_readNumber hdigits hstop fun _ => hletter
    · obtain ⟨d, rest, rfl, hd⟩ := not_stops_iff.1 hletter
      rw [read_digits_of_isIdentifierStart hdigits hd]
      exact ⟨.malformedNumber hdigits hd fun d hd => of_mem_takeWhile hd, stops_dropWhile _ _⟩
  -- A minus sign is part of a number only in front of a digit. Otherwise it is a symbol.
  by_cases hminus : c = '-' → Stops Char.isDigit cs
  · by_cases hand : c = '&'
    · rw [hand, read_ampersand]
      exact isValid_endsAt_readOperator .logicalAnd .bitwiseAnd (fun _ => rfl) (fun _ => rfl) cs
    by_cases hor : c = '|'
    · rw [hor, read_bar]
      exact isValid_endsAt_readOperator .logicalOr .bitwiseOr (fun _ => rfl) (fun _ => rfl) cs
    have hsymbol : isSymbolStart c = true := by
      simp [isSymbolStart, hblank, hstart, hdigit, hand, hor]
    rw [read_of_isSymbolStart hsymbol hminus]
    exact ⟨.unrecognised hsymbol fun d hd => of_mem_takeWhile hd, endsAt_unrecognised hminus⟩
  · obtain ⟨rfl, hdigits⟩ := Classical.not_imp.1 hminus
    obtain ⟨ds, rest, rfl, hall, hstop⟩ := exists_run Char.isDigit cs
    have hne : ds ≠ [] := by
      rintro rfl
      exact hdigits hstop
    rw [read_minus_digits ⟨hne, hall⟩ hstop]
    exact isValid_endsAt_readNumber ⟨hne, hall⟩ hstop (by simp)

/-! ## A well-formed lexeme is read where it ends -/

/-- A number with a point is read up to the end of its fraction. -/
theorem readNumber_of_endsAt {negative : Bool} {whole fraction rest : List Char}
    (hfraction : ∀ d ∈ fraction, d.isDigit = true)
    (hends : (float negative whole fraction).EndsAt rest) :
    readNumber negative whole ('.' :: (fraction ++ rest)) =
      (float negative whole fraction, rest) := by
  rw [readNumber_point, takeWhile_append_of_stops hfraction hends,
    dropWhile_append_of_stops hfraction hends]

/-- A number is read as its form says, whether a sign stands in front of it or not, if the text
behind its digits is no letter that would spoil them. -/
theorem read_number {negative : Bool} {digits rest : List Char} {c : Char} {cs : List Char}
    (hdigits : IsDigits digits) (hdigit : Stops Char.isDigit rest)
    (hstart : negative = false → Stops isIdentifierStart rest)
    (htext : sign negative ++ digits ++ rest = c :: cs) :
    read c cs = readNumber negative digits rest := by
  cases negative with
  | true =>
    obtain ⟨rfl, rfl⟩ : '-' = c ∧ digits ++ rest = cs := by simpa [sign] using htext
    exact read_minus_digits hdigits hdigit
  | false =>
    cases digits with
    | nil => exact absurd rfl hdigits.1
    | cons d ds =>
      obtain ⟨rfl, rfl⟩ : d = c ∧ ds ++ rest = cs := by simpa [sign] using htext
      exact read_digits_of_stops hdigits hdigit (hstart rfl)

/-- A well-formed lexeme is read from a text that starts with it and does not extend it. -/
theorem read_of_isValid {l : Lexeme} (hvalid : l.IsValid) {rest : List Char}
    (hends : l.EndsAt rest) {c : Char} {cs : List Char} (htext : l.text ++ rest = c :: cs) :
    read c cs = (l, rest) := by
  cases hvalid with
  | identifier start continues =>
    obtain ⟨rfl, rfl⟩ := List.cons.inj htext
    rw [List.append_eq, read_of_isIdentifierStart start, takeWhile_append_of_stops continues hends,
      dropWhile_append_of_stops continues hends]
  | integer negative digits_valid =>
    obtain ⟨hdigit, hpoint, hstart⟩ := endsAt_integer_iff.1 hends
    rw [read_number digits_valid hdigit hstart htext, readNumber_of_stops negative _ hpoint]
  | @float negative whole fraction whole_valid fraction_valid =>
    -- What stands behind the whole part is a point, which is neither a digit nor a letter.
    have hpoint : sign negative ++ whole ++ '.' :: (fraction ++ rest) = c :: cs := by
      rw [← htext]
      simp [text]
    rw [read_number whole_valid (stops_cons.2 (by decide)) (fun _ => stops_cons.2 (by decide))
      hpoint, readNumber_of_endsAt fraction_valid hends]
  | @malformedNumber digits ds d digits_valid start continues =>
    cases digits with
    | nil => exact absurd rfl digits_valid.1
    | cons e es =>
      obtain ⟨rfl, rfl⟩ : e = c ∧ es ++ d :: (ds ++ rest) = cs := by simpa [text] using htext
      rw [read_digits_of_isIdentifierStart digits_valid start,
        takeWhile_append_of_stops continues hends, dropWhile_append_of_stops continues hends]
  | logicalAnd =>
    obtain ⟨rfl, rfl⟩ := List.cons.inj htext
    exact (read_ampersand _).trans (readOperator_same '&' logicalAnd bitwiseAnd rest)
  | logicalOr =>
    obtain ⟨rfl, rfl⟩ := List.cons.inj htext
    exact (read_bar _).trans (readOperator_same '|' logicalOr bitwiseOr rest)
  | bitwiseAnd =>
    obtain ⟨rfl, rfl⟩ := List.cons.inj htext
    exact (read_ampersand _).trans (readOperator_of_stops logicalAnd bitwiseAnd hends)
  | bitwiseOr =>
    obtain ⟨rfl, rfl⟩ := List.cons.inj htext
    exact (read_bar _).trans (readOperator_of_stops logicalOr bitwiseOr hends)
  | @unrecognised d ds start continues =>
    obtain ⟨rfl, rfl⟩ := List.cons.inj htext
    obtain ⟨hstop, hminus⟩ := endsAt_unrecognised_iff.1 hends
    -- If the symbol is longer than a minus sign, its second character is no digit.
    have hdigit : d = '-' → Stops Char.isDigit (ds ++ rest) := by
      rintro rfl
      cases ds with
      | nil => exact hminus rfl
      | cons e es => exact stops_cons.2 (isDigit_of_isSymbolContinue (continues e (by simp)))
    rw [List.append_eq, read_of_isSymbolStart start hdigit,
      takeWhile_append_of_stops continues hstop, dropWhile_append_of_stops continues hstop]

/-- Reading gives a lexeme and a rest exactly when the lexeme is well formed, the two are the text,
and the rest does not extend the lexeme. -/
theorem read_eq_iff {c : Char} {cs : List Char} (hblank : isWhiteSpace c = false) {l : Lexeme}
    {rest : List Char} :
    read c cs = (l, rest) ↔ l.IsValid ∧ l.text ++ rest = c :: cs ∧ l.EndsAt rest := by
  constructor
  · intro h
    obtain ⟨hvalid, hends⟩ := isValid_endsAt_read hblank cs
    have htext := text_read_append c cs
    rw [h] at hvalid hends htext
    exact ⟨hvalid, htext, hends⟩
  · rintro ⟨hvalid, htext, hends⟩
    exact read_of_isValid hvalid hends htext

end Lexeme

end LogicLexer
