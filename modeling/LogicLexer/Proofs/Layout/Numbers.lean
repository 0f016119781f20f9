import LogicLexer.Proofs.Layout
import LogicLexer.Proofs.Number.Rounding
import LogicLexer.Proofs.Slice

/-!
# Numbers with and without a minus sign

What a text of digits starts with, and what it starts with behind a minus sign
(`front_of_digits`). A point takes both texts to the same number but for its sign; a letter spoils
the digits only if there is no sign; and where the number ends behind the digits, it is whole, and
an error just if it has more than 64 bits.

Each front of a text is a layout of one or two lexemes and the rest (`startsWith_of_isValid`), so
all that is to be shown is where these lexemes end.
-/

namespace LogicLexer

open Text

/-- Tokens of the given lexemes and values, one right behind the other from a position on. -/
def Token.row (position : Nat) : List (String × Value) → List Token
  | [] => []
  | (lexeme, value) :: pieces =>
    let stop := position + lexeme.utf8ByteSize
    ⟨value, ⟨position, stop⟩⟩ :: row stop pieces

/-- A text starts with lexemes in a row, and its tokens with tokens of theirs that have the given
values. -/
def StartsWith (source : String) (pieces : List (String × Value)) : Prop :=
  (∃ rest, String.join (pieces.map Prod.fst) ++ rest = source) ∧
    Token.row 0 pieces <+: (tokenize source).1

/-- A value is the whole number that a lexeme writes if the number fits, and an error otherwise. -/
def Value.Writes (lexeme : String) (number : Int) (fits : Prop) (v : Value) : Prop :=
  (fits ∧ ∃ n : Int64, v = .integer n ∧ n.toInt = number) ∨
    (¬ fits ∧ v = .error lexeme .integerOverflow)

namespace Layout

/-- Lexemes in a row with a layout behind them. -/
def inFront (lexemes : List Lexeme) (L : Layout) : Layout :=
  lexemes.foldr (piece []) L

/-- Lexemes with their values, by the names met before them. -/
def pieces (table : SymbolTable) : List Lexeme → List (String × Value)
  | [] => []
  | l :: ls => (String.ofList l.text, (l.value table).1) :: pieces (l.value table).2 ls

/-- The lexemes in front come first in the text. -/
theorem text_inFront (ls : List Lexeme) (L : Layout) :
    (inFront ls L).text = ls.flatMap Lexeme.text ++ L.text := by
  induction ls with
  | nil => rfl
  | cons l ls ih =>
    show [] ++ l.text ++ (inFront ls L).text = _
    rw [ih, List.nil_append, List.flatMap_cons, List.append_assoc]

/-- Their tokens come first as well. -/
theorem row_isPrefix_tokens (ls : List Lexeme) (L : Layout) (position : Nat)
    (table : SymbolTable) :
    Token.row position (pieces table ls) <+: (inFront ls L).tokens position table := by
  induction ls generalizing position table with
  | nil => exact List.nil_prefix
  | cons l ls ih =>
    have hsize : (String.ofList l.text).utf8ByteSize = byteLength l.text := by
      rw [← byteLength_toList, String.toList_ofList]
    show ⟨_, ⟨position, position + _⟩⟩ :: Token.row (position + _) _ <+:
      ⟨_, ⟨position, position + byteLength l.text⟩⟩ :: (inFront ls L).tokens _ _
    rw [hsize]
    exact (List.prefix_cons_inj _).2 (ih _ _)

/-- The texts of the pieces are those of the lexemes. -/
theorem toList_join_pieces (table : SymbolTable) (ls : List Lexeme) :
    (String.join ((pieces table ls).map Prod.fst)).toList = ls.flatMap Lexeme.text := by
  induction ls generalizing table with
  | nil => rfl
  | cons l ls ih =>
    rw [pieces, List.map_cons, String.join_cons, String.toList_append, ih, String.toList_ofList,
      List.flatMap_cons]

end Layout

/-- A text starts with the lexemes of a valid layout. -/
theorem startsWith_of_isValid {ls : List Lexeme} {rest source : String}
    (h : (Layout.inFront ls (Layout.ofText rest.toList)).IsValid)
    (hsource : ls.flatMap Lexeme.text ++ rest.toList = source.toList) :
    StartsWith source (Layout.pieces .empty ls) := by
  constructor
  · refine ⟨rest, ?_⟩
    rw [← String.toList_inj, String.toList_append, Layout.toList_join_pieces, hsource]
  · have htext : (Layout.inFront ls (Layout.ofText rest.toList)).text = source.toList := by
      rw [Layout.text_inFront, Layout.text_ofText, hsource]
    rw [Layout.tokens_tokenize, h.eq_ofText htext]
    exact Layout.row_isPrefix_tokens ls _ 0 .empty

/-- A text starts with a lexeme that ends at what stands behind it. -/
theorem startsWith_of_endsAt {l : Lexeme} {lexeme rest : String} (hl : l.IsValid)
    (htext : lexeme.toList = l.text) (hends : l.EndsAt rest.toList) :
    StartsWith (lexeme ++ rest) [(lexeme, (l.value .empty).1)] := by
  obtain rfl : lexeme = String.ofList l.text := by rw [← htext, String.ofList_toList]
  refine @startsWith_of_isValid [l] rest _ ?_ ?_
  · refine .piece (by simp) hl ?_ (Layout.isValid_ofText _)
    show l.EndsAt (Layout.ofText rest.toList).text
    rwa [Layout.text_ofText]
  · rw [String.toList_append, htext, List.flatMap_singleton]

/-- A text starts with two lexemes of which the first ends at the second, and the second at what
stands behind it. -/
theorem startsWith_of_endsAt_of_endsAt {l m : Lexeme} {first second rest : String} (hl : l.IsValid)
    (hfirst : first.toList = l.text) (hm : m.IsValid) (hsecond : second.toList = m.text)
    (hlends : l.EndsAt (m.text ++ rest.toList)) (hmends : m.EndsAt rest.toList) :
    StartsWith (first ++ second ++ rest)
      [(first, (l.value .empty).1), (second, (m.value (l.value .empty).2).1)] := by
  obtain rfl : first = String.ofList l.text := by rw [← hfirst, String.ofList_toList]
  obtain rfl : second = String.ofList m.text := by rw [← hsecond, String.ofList_toList]
  refine @startsWith_of_isValid [l, m] rest _ ?_ ?_
  · refine .piece (by simp) hl ?_ (.piece (by simp) hm ?_ (Layout.isValid_ofText _))
    · show l.EndsAt ([] ++ m.text ++ (Layout.ofText rest.toList).text)
      rwa [Layout.text_ofText]
    · show m.EndsAt (Layout.ofText rest.toList).text
      rwa [Layout.text_ofText]
  · rw [String.toList_append, String.toList_append, hfirst, hsecond]
    simp

/-! ## The value of digits -/

/-- A number within 64 bits is not changed by them. -/
theorem Lexeme.writes_integerValue (negative : Bool) (digits : List Char) :
    Value.Writes (String.ofList (sign negative ++ digits))
      (if negative then -(Nat.ofDigitChars 10 digits 0 : Int) else Nat.ofDigitChars 10 digits 0)
      (Nat.ofDigitChars 10 digits 0 ≤ if negative then 9223372036854775808 else 9223372036854775807)
      (integerValue negative digits) := by
  have hmin : Int64.minValue.toInt = -9223372036854775808 := by decide
  have hmax : Int64.maxValue.toInt = 9223372036854775807 := by decide
  unfold integerValue
  dsimp only
  generalize Nat.ofDigitChars 10 digits 0 = v
  generalize hnumber : (if negative = true then -(v : Int) else v) = number
  have hrange : Int64.minValue.toInt ≤ number ∧ number ≤ Int64.maxValue.toInt ↔
      v ≤ if negative then 9223372036854775808 else 9223372036854775807 := by
    rw [hmin, hmax, ← hnumber]
    cases negative <;> simp
  by_cases hfits : v ≤ if negative then 9223372036854775808 else 9223372036854775807
  · rw [if_pos (hrange.2 hfits)]
    obtain ⟨hle, hge⟩ := hrange.2 hfits
    exact Or.inl ⟨hfits, _, rfl, Int64.toInt_ofInt_of_le hle (by omega)⟩
  · rw [if_neg (mt hrange.1 hfits)]
    exact Or.inr ⟨hfits, rfl⟩

/-- The minus sign flips the sign bit of a number with a point, and nothing else. -/
theorem Binary64.bits_ofDecimal_true (whole fraction : List Char) :
    (ofDecimal true whole fraction).bits =
      (ofDecimal false whole fraction).bits ^^^ 0x8000000000000000 :=
  bits_ofMagnitude_true (Nat.lt_of_le_of_lt (roundMagnitude_le_infinity _ _) (by decide))

/-! ## The front of a text -/

section

variable {negative : Bool} {ds : List Char} {d r f w rest : String}

/-- Digits in front of a point make a number with a point, with a sign or not. -/
theorem startsWith_float (hds : IsDigits ds) (hd : d.toList = Lexeme.sign negative ++ ds)
    (hf : ∀ c ∈ f.toList, c.isDigit = true) (hrest : Stops Char.isDigit rest.toList) :
    StartsWith (d ++ "." ++ f ++ rest)
      [(d ++ "." ++ f, .float (Binary64.ofDecimal negative ds f.toList))] := by
  refine startsWith_of_endsAt (.float negative hds hf) ?_ hrest
  rw [String.toList_append, String.toList_append, hd, Lexeme.text, List.append_assoc]
  rfl

/-- Digits in front of a word make a malformed number together with it. -/
theorem startsWith_malformedNumber (hd : IsDigits d.toList) {c : Char} {cs : List Char}
    (hw : w.toList = c :: cs) (hc : isIdentifierStart c = true)
    (hcs : ∀ e ∈ cs, isIdentifierContinue e = true)
    (hrest : Stops isIdentifierContinue rest.toList) :
    StartsWith (d ++ w ++ rest) [(d ++ w, .error (d ++ w) .malformedNumber)] := by
  have htext : (d ++ w).toList = d.toList ++ c :: cs := by rw [String.toList_append, hw]
  have hstarts := startsWith_of_endsAt (.malformedNumber hd hc hcs) htext hrest
  rw [Lexeme.value, ← htext, String.ofList_toList] at hstarts
  exact hstarts

/-- Digits behind a minus sign end in front of a word, which makes an identifier. -/
theorem startsWith_minus_identifier (hds : IsDigits ds) (hd : d.toList = Lexeme.sign true ++ ds)
    {c : Char} {cs : List Char} (hw : w.toList = c :: cs) (hc : isIdentifierStart c = true)
    (hcs : ∀ e ∈ cs, isIdentifierContinue e = true)
    (hrest : Stops isIdentifierContinue rest.toList) :
    StartsWith (d ++ w ++ rest) [(d, Lexeme.integerValue true ds), (w, .identifier 0)] := by
  have hpoint : c ≠ '.' := by
    rintro rfl
    exact absurd hc (by decide)
  have hends : (Lexeme.integer true ds).EndsAt
      ((Lexeme.identifier (c :: cs)).text ++ rest.toList) :=
    Lexeme.endsAt_integer_iff.2 ⟨stops_cons.2 (isDigit_of_isIdentifierStart hc),
      stops_cons.2 (by simpa using hpoint), by simp⟩
  exact startsWith_of_endsAt_of_endsAt (.integer true hds) hd (.identifier hc hcs) hw hends hrest

/-- Digits in front of what extends no whole number are one. -/
theorem startsWith_integer (hds : IsDigits ds) (hd : d.toList = Lexeme.sign negative ++ ds)
    (hends : (Lexeme.integer negative ds).EndsAt r.toList) :
    StartsWith (d ++ r) [(d, Lexeme.integerValue negative ds)] :=
  startsWith_of_endsAt (.integer negative hds) hd hends

end

/-- The first token of a text of digits, whatever follows them that is no digit, and the first token
of the same text behind a minus sign. In front of a point both are the number with the digits behind
the point, and the sign bits differ. In front of a letter the digits are spoilt by all of the word,
unless there is a minus sign: then the number ends there and the word is an identifier. Otherwise
both numbers end behind the digits. Where a number ends behind the digits, it is the whole number
that they write, or an error if that has more than 64 bits. -/
theorem front_of_digits (d r : String) (hd : IsDigits d.toList) (hr : Stops Char.isDigit r.toList) :
    let v := Nat.ofDigitChars 10 d.toList 0
    if r.toList.head? = some '.' then
      let f := String.ofList ((r.toList.drop 1).takeWhile Char.isDigit)
      ∃ x y : Binary64, StartsWith (d ++ r) [(d ++ "." ++ f, .float x)] ∧
        StartsWith ("-" ++ d ++ r) [("-" ++ d ++ "." ++ f, .float y)] ∧
        y.bits = x.bits ^^^ 0x8000000000000000
    else if r.toList.head?.any isIdentifierStart then
      let w := String.ofList (r.toList.takeWhile isIdentifierContinue)
      StartsWith (d ++ r) [(d ++ w, .error (d ++ w) .malformedNumber)] ∧
        ∃ value : Value, value.Writes ("-" ++ d) (-v) (v ≤ 9223372036854775808) ∧
          StartsWith ("-" ++ d ++ r) [("-" ++ d, value), (w, .identifier 0)]
    else
      (∃ value : Value, value.Writes d v (v ≤ 9223372036854775807) ∧
        StartsWith (d ++ r) [(d, value)]) ∧
      ∃ value : Value, value.Writes ("-" ++ d) (-v) (v ≤ 9223372036854775808) ∧
        StartsWith ("-" ++ d ++ r) [("-" ++ d, value)] := by
  intro v
  have hplus : d.toList = Lexeme.sign false ++ d.toList := rfl
  have hminus : ("-" ++ d).toList = Lexeme.sign true ++ d.toList := by
    rw [String.toList_append]
    rfl
  have hwrites : (Lexeme.integerValue false d.toList).Writes d v (v ≤ 9223372036854775807) := by
    have h := Lexeme.writes_integerValue false d.toList
    rwa [← hplus, String.ofList_toList] at h
  have hwrites_minus : (Lexeme.integerValue true d.toList).Writes ("-" ++ d) (-v)
      (v ≤ 9223372036854775808) := by
    have h := Lexeme.writes_integerValue true d.toList
    rwa [← hminus, String.ofList_toList] at h
  split_ifs with hpoint hletter
  · obtain ⟨cs, hcs⟩ := List.head?_eq_some_iff.1 hpoint
    obtain ⟨rest, hsplit, hrest⟩ := exists_run_append Char.isDigit (String.ofList cs)
    rw [String.toList_ofList] at hsplit
    rw [hcs, List.drop_one, List.tail_cons]
    intro f
    have hf : ∀ c ∈ f.toList, c.isDigit = true := fun c hc =>
      of_mem_takeWhile (String.toList_ofList ▸ hc)
    have hr : r = "." ++ (f ++ rest) := by
      rw [hsplit, ← String.toList_inj, String.toList_append, String.toList_ofList,
        String.toList_ofList, hcs]
      rfl
    have hfront : ∀ s : String, s ++ r = s ++ "." ++ f ++ rest := fun s => by
      rw [hr]
      simp only [String.append_assoc]
    rw [hfront, hfront]
    exact ⟨_, _, startsWith_float hd hplus hf hrest, startsWith_float hd hminus hf hrest,
      Binary64.bits_ofDecimal_true _ _⟩
  · obtain ⟨c, cs, hcs, hc⟩ := not_stops_iff.1 fun hstops =>
      Bool.false_ne_true ((any_head?_eq_false_iff.2 hstops).symm.trans hletter)
    obtain ⟨rest, hsplit, hrest⟩ := exists_run_append isIdentifierContinue r
    intro w
    have hw : w.toList = c :: cs.takeWhile isIdentifierContinue := by
      rw [String.toList_ofList, hcs,
        List.takeWhile_cons_of_pos (isIdentifierContinue_of_isIdentifierStart hc)]
    have hfront : ∀ s : String, s ++ r = s ++ w ++ rest := fun s => by
      rw [String.append_assoc, hsplit]
    rw [hfront, hfront]
    exact ⟨startsWith_malformedNumber hd hw hc (fun e he => of_mem_takeWhile he) hrest, _,
      hwrites_minus,
      startsWith_minus_identifier hd hminus hw hc (fun e he => of_mem_takeWhile he) hrest⟩
  · have hstart : Stops isIdentifierStart r.toList :=
      any_head?_eq_false_iff.1 (Bool.eq_false_iff.2 hletter)
    have hnopoint : Stops (· == '.') r.toList := fun c hc => by
      simpa using fun heq : c = '.' => hpoint (heq ▸ hc)
    exact ⟨⟨_, hwrites, startsWith_integer hd hplus
        (Lexeme.endsAt_integer_iff.2 ⟨hr, hnopoint, fun _ => hstart⟩)⟩,
      _, hwrites_minus, startsWith_integer hd hminus
        (Lexeme.endsAt_integer_iff.2 ⟨hr, hnopoint, fun _ => hstart⟩)⟩

/-- The least number of 64 bits in front of a word: without its sign it is spoilt by the word. -/
theorem front_of_digits_least :
    IsDigits "9223372036854775808".toList ∧ Stops Char.isDigit "km 2".toList ∧
      StartsWith "9223372036854775808km 2"
        [("9223372036854775808km", .error "9223372036854775808km" .malformedNumber)] ∧
      StartsWith "-9223372036854775808km 2"
        [("-9223372036854775808", .integer Int64.minValue), ("km", .identifier 0)] := by
  have hd : IsDigits "9223372036854775808".toList := ⟨by decide, List.all_eq_true.1 (by decide)⟩
  have hr : Stops Char.isDigit "km 2".toList := stops_cons.2 (by decide)
  have h := front_of_digits "9223372036854775808" "km 2" hd hr
  rw [if_neg (by decide), if_pos (by decide)] at h
  obtain ⟨hspoilt, value, hwrites, hsign⟩ := h
  have hv : Nat.ofDigitChars 10 "9223372036854775808".toList 0 = 9223372036854775808 := by
    decide +kernel
  rw [hv] at hwrites
  obtain ⟨-, n, rfl, hn⟩ | ⟨hnot, -⟩ := hwrites
  · obtain rfl : n = Int64.minValue := Int64.toInt_inj.1 hn
    exact ⟨hd, hr, hspoilt, hsign⟩
  · exact absurd (Nat.le_refl _) hnot

end LogicLexer
