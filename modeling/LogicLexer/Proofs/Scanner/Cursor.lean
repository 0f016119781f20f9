import LogicLexer.Proofs.Layout.Spacing
import LogicLexer.Proofs.Scanner.Run

/-!
# Scanning by a byte offset alone

A scanner keeps the text that it has not read. A `Cursor` keeps no more than a byte offset, and cuts
the text there anew whenever it looks at a character: there is nothing to look at where the offset
lies inside a character or beyond the end. `Cursor.next?` reads a lexeme in this way, character by
character. On a scanner's way through its text no cut fails, and the cursor goes where the scanner
goes (`Scanner.next?_cursor_of_eq_some` and `Scanner.next?_cursor_of_eq_none`). That the loops of a
cursor end does not depend on the way it came: each step leaves fewer bytes (`Cursor.position_lt`).

`Scanner.SafeCall` says what a call for a token can rely on and leads to, and `calls_safe` that all
calls are such, however many went before.
-/

namespace LogicLexer

open Text

/-- A place in a text by its byte offset. -/
structure Cursor where
  /-- The text. -/
  source : String
  /-- The offset. -/
  position : Nat

namespace Cursor

/-- The text behind the offset, if that lies between two characters or at an end. -/
def rest? (c : Cursor) : Option (List Char) :=
  (splitAtByte? c.position c.source.toList).map Prod.snd

/-- The character at the cursor, if there is one. -/
def look? (c : Cursor) : Option (Option Char) :=
  c.rest?.map List.head?

/-- The character behind the one at the cursor, if there is one. -/
def lookAhead? (c : Cursor) : Option (Option Char) :=
  c.rest?.map (·[1]?)

/-- The cursor behind a part of what stands at it. -/
def forward (c : Cursor) (part : List Char) : Cursor :=
  ⟨c.source, c.position + byteLength part⟩

/-- A text can be looked at where one part of it ends. -/
theorem rest?_eq_some_iff {c : Cursor} {cs : List Char} :
    c.rest? = some cs ↔
      ∃ before, before ++ cs = c.source.toList ∧ byteLength before = c.position := by
  simp only [rest?, Option.map_eq_some_iff, Prod.exists, splitAtByte?_eq_some_iff,
    exists_eq_right]

/-- In front of a character there are bytes left. -/
theorem position_lt {c : Cursor} {d : Char} {ds : List Char} (h : c.rest? = some (d :: ds)) :
    c.position < c.source.utf8ByteSize := by
  obtain ⟨before, htext, hposition⟩ := rest?_eq_some_iff.1 h
  have hd := d.utf8Size_pos
  rw [← byteLength_toList, ← htext, byteLength_append, byteLength_cons]
  omega

/-- The cursor behind all characters of a class that stand at it. -/
def skipWhile? (p : Char → Bool) (c : Cursor) : Option Cursor :=
  match h : c.rest? with
  | none => none
  | some [] => some c
  | some (d :: _) =>
    have := position_lt h
    if p d then (c.forward [d]).skipWhile? p else some c
termination_by c.source.utf8ByteSize - c.position
decreasing_by
  have hd := d.utf8Size_pos
  simp only [forward, byteLength_cons, byteLength_nil]
  omega

/-- Reads the rest of a number behind its first digits. -/
def readNumber? (c : Cursor) : Option (Form × Cursor) := do
  if (← c.look?) = some '.' then
    return (.float, ← (c.forward ['.']).skipWhile? Char.isDigit)
  else return (.integer, c)

/-- Reads an operator. -/
def readOperator? (c : Cursor) (symbol : Char) (double single : Form) : Option (Form × Cursor) := do
  let behind := c.forward [symbol]
  if (← behind.look?) = some symbol then return (double, behind.forward [symbol])
  else return (single, behind)

/-- Reads the lexeme that starts with a character: its form, and the cursor behind it. -/
def read? (c : Cursor) (d : Char) : Option (Form × Cursor) := do
  if isIdentifierStart d then
    return (.identifier, ← c.skipWhile? isIdentifierContinue)
  else if d.isDigit then
    let behind ← c.skipWhile? Char.isDigit
    if (← behind.look?).any isIdentifierStart then
      return (.malformedNumber, ← behind.skipWhile? isIdentifierContinue)
    else behind.readNumber?
  else if d = '-' ∧ (← c.lookAhead?).any Char.isDigit then
    (← (c.forward ['-']).skipWhile? Char.isDigit).readNumber?
  else if d = '&' then c.readOperator? '&' .logicalAnd .bitwiseAnd
  else if d = '|' then c.readOperator? '|' .logicalOr .bitwiseOr
  else return (.unrecognised, ← (c.forward [d]).skipWhile? isSymbolContinue)

/-- Skips blanks and reads a lexeme: its form, its text and its span, and the cursor behind it. -/
def next? (c : Cursor) : Option (Option (Form × String × Span) × Cursor) := do
  let start ← c.skipWhile? isWhiteSpace
  match ← start.look? with
  | none => return (none, start)
  | some d =>
    let (form, behind) ← start.read? d
    let span := Span.mk start.position behind.position
    return (some (form, ← span.textIn? c.source, span), behind)

/-! ## No look fails -/

/-- Behind a part of what stands at a cursor there is the rest of it. -/
theorem rest?_forward {c : Cursor} {part cs : List Char} (h : c.rest? = some (part ++ cs)) :
    (c.forward part).rest? = some cs := by
  obtain ⟨before, htext, hposition⟩ := rest?_eq_some_iff.1 h
  refine rest?_eq_some_iff.2 ⟨before ++ part, by rw [List.append_assoc, htext]; rfl, ?_⟩
  rw [byteLength_append, hposition]
  rfl

/-- Behind the character at a cursor there is the rest. -/
theorem rest?_forward_cons {c : Cursor} {d : Char} {ds : List Char}
    (h : c.rest? = some (d :: ds)) : (c.forward [d]).rest? = some ds :=
  rest?_forward h

/-- Two parts are passed as one. -/
theorem forward_forward (c : Cursor) (part more : List Char) :
    (c.forward part).forward more = c.forward (part ++ more) := by
  simp only [forward, byteLength_append, Nat.add_assoc]

/-- Nothing is passed by staying. -/
theorem forward_nil (c : Cursor) : c.forward [] = c := rfl

/-- All characters of a class that stand at a cursor are skipped. -/
theorem skipWhile?_eq (p : Char → Bool) {c : Cursor} {cs : List Char} (h : c.rest? = some cs) :
    c.skipWhile? p = some (c.forward (cs.takeWhile p)) := by
  induction cs generalizing c with
  | nil =>
    unfold skipWhile?
    split <;> simp_all [forward_nil]
  | cons d ds ih =>
    have hbehind := rest?_forward_cons h
    unfold skipWhile?
    split
    · simp_all
    · simp_all
    · rename_i e es he
      obtain ⟨rfl, rfl⟩ : d = e ∧ ds = es := by simpa using h.symm.trans he
      cases hp : p d with
      | true => rw [if_pos rfl, ih hbehind, forward_forward, List.takeWhile_cons_of_pos hp]; rfl
      | false => rw [if_neg Bool.false_ne_true, List.takeWhile_cons_of_neg (by simp [hp])]; rfl

/-- Where there is a text to look at, its first character is seen. -/
theorem look?_eq {c : Cursor} {cs : List Char} (h : c.rest? = some cs) :
    c.look? = some cs.head? := by
  rw [look?, h, Option.map_some]

/-- The first character behind the one at a cursor is seen as well. -/
theorem lookAhead?_eq {c : Cursor} {d : Char} {ds : List Char} (h : c.rest? = some (d :: ds)) :
    c.lookAhead? = some ds.head? := by
  rw [lookAhead?, h, Option.map_some, List.getElem?_cons_succ, List.head?_eq_getElem?]

/-- The rest of a number is read behind its digits. -/
theorem readNumber?_eq {c : Cursor} {negative : Bool} {digits cs : List Char}
    (h : c.rest? = some (Lexeme.sign negative ++ digits ++ cs)) :
    (c.forward (Lexeme.sign negative ++ digits)).readNumber? =
      some ((Lexeme.readNumber negative digits cs).1.form,
        c.forward (Lexeme.readNumber negative digits cs).1.text) := by
  have hbehind := rest?_forward h
  by_cases hpoint : Stops (· == '.') cs
  · have hlook : cs.head? ≠ some '.' := fun hhead => absurd (hpoint '.' hhead) (by decide)
    rw [Lexeme.readNumber_of_stops negative digits hpoint, readNumber?, look?_eq hbehind]
    exact if_neg hlook
  · obtain ⟨d, ds, rfl, hd⟩ := not_stops_iff.1 hpoint
    obtain rfl : d = '.' := by simpa using hd
    have hfraction := skipWhile?_eq Char.isDigit (rest?_forward_cons hbehind)
    rw [forward_forward, forward_forward] at hfraction
    rw [Lexeme.readNumber_point, readNumber?, look?_eq hbehind, List.head?_cons,
      Option.bind_eq_bind, Option.bind_some, if_pos rfl, forward_forward, hfraction]
    simp [Lexeme.form, Lexeme.text]

/-- An operator is read as one character or as two. -/
theorem readOperator?_eq {c : Cursor} {symbol : Char} {cs : List Char} (double single : Lexeme)
    (hdouble : double.text = [symbol, symbol]) (hsingle : single.text = [symbol])
    (h : c.rest? = some (symbol :: cs)) :
    c.readOperator? symbol double.form single.form =
      some ((Lexeme.readOperator symbol double single cs).1.form,
        c.forward (Lexeme.readOperator symbol double single cs).1.text) := by
  have hlook := look?_eq (rest?_forward_cons h)
  by_cases hsame : Stops (· == symbol) cs
  · have hhead : cs.head? ≠ some symbol := fun hhead =>
      absurd (hsame symbol hhead) (by simp)
    rw [Lexeme.readOperator_of_stops double single hsame, hsingle]
    dsimp only [readOperator?]
    rw [hlook, Option.bind_eq_bind, Option.bind_some, if_neg hhead]
    rfl
  · obtain ⟨d, ds, rfl, hd⟩ := not_stops_iff.1 hsame
    obtain rfl : d = symbol := by simpa using hd
    rw [Lexeme.readOperator_same, hdouble]
    dsimp only [readOperator?]
    rw [hlook, Option.bind_eq_bind, Option.bind_some, List.head?_cons, if_pos rfl, forward_forward]
    rfl

/-- A name is read up to where no more of it follows. -/
theorem read?_of_isIdentifierStart {c : Cursor} {d : Char} {ds : List Char}
    (h : c.rest? = some (d :: ds)) (hd : isIdentifierStart d = true) :
    c.read? d = some ((Lexeme.read d ds).1.form, c.forward (Lexeme.read d ds).1.text) := by
  have hname := skipWhile?_eq isIdentifierContinue h
  rw [List.takeWhile_cons_of_pos (isIdentifierContinue_of_isIdentifierStart hd)] at hname
  rw [read?, if_pos hd, hname, Lexeme.read_of_isIdentifierStart hd]
  rfl

/-- Digits are read as a number, or with the letters behind them as an error. -/
theorem read?_of_isDigit {c : Cursor} {d : Char} {ds : List Char} (h : c.rest? = some (d :: ds))
    (hd : d.isDigit = true) :
    c.read? d = some ((Lexeme.read d ds).1.form, c.forward (Lexeme.read d ds).1.text) := by
  have hstart : ¬ isIdentifierStart d = true := by
    rw [(isIdentifierStart_of_isDigit hd).1]
    exact Bool.false_ne_true
  obtain ⟨es, rest, rfl, hall, hstop⟩ := exists_run Char.isDigit ds
  have hdigits : IsDigits (d :: es) := ⟨by simp, List.forall_mem_cons.2 ⟨hd, hall⟩⟩
  have hrun := skipWhile?_eq Char.isDigit h
  rw [← List.cons_append, takeWhile_append_of_stops hdigits.2 hstop] at hrun
  have hbehind : (c.forward (d :: es)).rest? = some rest := rest?_forward h
  rw [read?, if_neg hstart, if_pos hd, hrun, Option.bind_eq_bind, Option.bind_some,
    look?_eq hbehind, Option.bind_eq_bind, Option.bind_some]
  -- Whether a letter follows the digits decides between the two.
  by_cases hletter : Stops isIdentifierStart rest
  · rw [any_head?_eq_false_iff.2 hletter, if_neg Bool.false_ne_true,
      Lexeme.read_digits_of_stops hdigits hstop hletter]
    exact @readNumber?_eq c false (d :: es) rest h
  · obtain ⟨e, fs, rfl, he⟩ := not_stops_iff.1 hletter
    have hname := skipWhile?_eq isIdentifierContinue hbehind
    rw [List.takeWhile_cons_of_pos (isIdentifierContinue_of_isIdentifierStart he)] at hname
    rw [List.head?_cons, Option.any_some, if_pos he, hname, forward_forward,
      Lexeme.read_digits_of_isIdentifierStart hdigits he]
    rfl

/-- A minus in front of digits belongs to their number. -/
theorem read?_minus {c : Cursor} {ds : List Char} (h : c.rest? = some ('-' :: ds))
    (hds : ¬ Stops Char.isDigit ds) :
    c.read? '-' = some ((Lexeme.read '-' ds).1.form, c.forward (Lexeme.read '-' ds).1.text) := by
  have hstart : ¬ isIdentifierStart '-' = true := by decide +kernel
  have hdigit : ¬ '-'.isDigit = true := by decide
  have hany : ds.head?.any Char.isDigit = true := by
    rwa [← any_head?_eq_false_iff, Bool.not_eq_false] at hds
  obtain ⟨es, rest, rfl, hall, hstop⟩ := exists_run Char.isDigit ds
  have hne : es ≠ [] := by
    rintro rfl
    exact hds hstop
  have hrun := skipWhile?_eq Char.isDigit (rest?_forward_cons h)
  rw [takeWhile_append_of_stops hall hstop, forward_forward] at hrun
  rw [read?, if_neg hstart, if_neg hdigit, lookAhead?_eq h, Option.bind_eq_bind, Option.bind_some,
    if_pos ⟨rfl, hany⟩, hrun, Option.bind_eq_bind, Option.bind_some,
    Lexeme.read_minus_digits ⟨hne, hall⟩ hstop]
  exact @readNumber?_eq c true es rest h

/-- Any other character starts an operator or an unrecognised symbol. -/
theorem read?_of_not {c : Cursor} {d : Char} {ds : List Char} (h : c.rest? = some (d :: ds))
    (hstart : ¬ isIdentifierStart d = true) (hdigit : ¬ d.isDigit = true)
    (hminus : d = '-' → Stops Char.isDigit ds) :
    c.read? d = some ((Lexeme.read d ds).1.form, c.forward (Lexeme.read d ds).1.text) := by
  have hnumber : ¬ (d = '-' ∧ ds.head?.any Char.isDigit = true) := by
    rintro ⟨hd, hany⟩
    rw [any_head?_eq_false_iff.2 (hminus hd)] at hany
    exact Bool.false_ne_true hany
  rw [read?, if_neg hstart, if_neg hdigit, lookAhead?_eq h, Option.bind_eq_bind, Option.bind_some,
    if_neg hnumber]
  by_cases hand : d = '&'
  · subst hand
    rw [if_pos rfl, Lexeme.read_ampersand]
    exact readOperator?_eq .logicalAnd .bitwiseAnd rfl rfl h
  by_cases hor : d = '|'
  · subst hor
    rw [if_neg hand, if_pos rfl, Lexeme.read_bar]
    exact readOperator?_eq .logicalOr .bitwiseOr rfl rfl h
  have hsymbol := skipWhile?_eq isSymbolContinue (rest?_forward_cons h)
  have hread : Lexeme.read d ds = (.unrecognised (d :: ds.takeWhile isSymbolContinue),
      ds.dropWhile isSymbolContinue) := by
    unfold Lexeme.read
    rw [if_neg hstart, if_neg hdigit, if_neg hnumber, if_neg hand, if_neg hor]
  rw [if_neg hand, if_neg hor, hsymbol, forward_forward, hread]
  rfl

/-- A cursor reads the lexeme that stands there. -/
theorem read?_eq {c : Cursor} {d : Char} {ds : List Char} (h : c.rest? = some (d :: ds)) :
    c.read? d = some ((Lexeme.read d ds).1.form, c.forward (Lexeme.read d ds).1.text) := by
  by_cases hstart : isIdentifierStart d = true
  · exact read?_of_isIdentifierStart h hstart
  by_cases hdigit : d.isDigit = true
  · exact read?_of_isDigit h hdigit
  by_cases hminus : d = '-' → Stops Char.isDigit ds
  · exact read?_of_not h hstart hdigit hminus
  · obtain ⟨rfl, hds⟩ := Classical.not_imp.1 hminus
    exact read?_minus h hds

end Cursor

/-- The cursor of a scanner is where it stands. -/
def Scanner.cursor (s : Scanner) : Cursor :=
  ⟨s.source, s.position⟩

namespace Scanner

/-- A scanner's cursor can look at the text that is left. -/
theorem rest?_cursor (s : Scanner) : s.cursor.rest? = some s.rest :=
  Cursor.rest?_eq_some_iff.2 s.splits

/-- Behind the blanks in front of it, a scanner's cursor is where the blanks have been skipped. -/
theorem skipWhile?_cursor (s : Scanner) :
    s.cursor.skipWhile? isWhiteSpace = some s.skipBlanks.cursor :=
  Cursor.skipWhile?_eq isWhiteSpace s.rest?_cursor

/-- Where a scanner finds no token, its cursor finds no lexeme, and both go to the end of the
text. -/
theorem next?_cursor_of_eq_none {s s' : Scanner} (h : s.next = (none, s')) :
    s.cursor.next? = some (none, s'.cursor) := by
  obtain ⟨hnil, rfl⟩ := of_next_eq_none h
  have hlook := Cursor.look?_eq (s.skipBlanks.rest?_cursor.trans (congrArg some hnil))
  rw [Cursor.next?, skipWhile?_cursor, Option.bind_eq_bind, Option.bind_some, hlook]
  rfl

/-- Where a scanner finds a token, its cursor finds the lexeme that the token stands for, and both
go behind it. -/
theorem next?_cursor_of_eq_some {s s' : Scanner} {t : Token} (h : s.next = (some t, s')) :
    ∃ l : Lexeme, t.value = (l.value s.symbols).1 ∧
      s.cursor.next? = some (some (l.form, String.ofList l.text, t.span), s'.cursor) := by
  obtain ⟨c, cs, hrest, rfl, rfl⟩ := of_next_eq_some h
  have hbehind : s.skipBlanks.cursor.rest? = some (c :: cs) :=
    s.skipBlanks.rest?_cursor.trans (congrArg some hrest)
  have hcut : (Span.mk s.skipBlanks.cursor.position
      (s.skipBlanks.cursor.forward (Lexeme.read c cs).1.text).position).textIn? s.cursor.source =
        some (String.ofList (Lexeme.read c cs).1.text) :=
    s.textIn?_read hrest
  refine ⟨(Lexeme.read c cs).1, rfl, ?_⟩
  rw [Cursor.next?, skipWhile?_cursor, Option.bind_eq_bind, Option.bind_some,
    Cursor.look?_eq hbehind, Option.bind_eq_bind, Option.bind_some, List.head?_cons]
  dsimp only
  rw [Cursor.read?_eq hbehind, Option.bind_eq_bind, Option.bind_some]
  dsimp only
  rw [hcut]
  rfl

/-! ## Calls for a token -/

/-- A scanner stands between two characters of its text, or at an end. -/
theorem isBoundary_position (s : Scanner) : IsBoundary s.source s.position := by
  obtain ⟨before, htext, hposition⟩ := s.splits
  exact ⟨before, s.rest, htext, hposition⟩

/-- The bytes that a scanner has read and those that are left are all bytes of the text. -/
theorem position_add_byteLength_rest (s : Scanner) :
    s.position + byteLength s.rest = s.source.utf8ByteSize := by
  obtain ⟨before, htext, hposition⟩ := s.splits
  rw [← hposition, ← byteLength_append, htext, byteLength_toList]

/-- A scanner is at the end of its text when it has read all bytes. -/
theorem atEnd_iff (s : Scanner) : s.atEnd = true ↔ s.source.utf8ByteSize ≤ s.position := by
  have hsum := s.position_add_byteLength_rest
  rw [atEnd, List.isEmpty_iff, ← byteLength_eq_zero_iff]
  omega

/-- A scanner stays at the end of its text. -/
theorem after_of_rest_eq_nil {s : Scanner} (h : s.rest = []) (count : Nat) : s.after count = s := by
  induction count with
  | zero => rfl
  | succ count ih => rw [after_succ, ih, next_of_rest_eq_nil h]

/-- A token stands behind the place where the scanner was, is not empty, and ends where the scanner
is. -/
theorem span_of_next_eq_some {s s' : Scanner} {t : Token} (h : s.next = (some t, s')) :
    s'.position = t.span.stop ∧ s.position ≤ t.span.start ∧ t.span.start < t.span.stop := by
  obtain ⟨c, cs, hrest, rfl, rfl⟩ := of_next_eq_some h
  have hpos : byteLength (Lexeme.read c cs).1.text ≠ 0 := fun h0 =>
    Lexeme.text_read_ne_nil c cs (byteLength_eq_zero_iff.1 h0)
  refine ⟨rfl, Nat.le_add_right _ _, ?_⟩
  dsimp only
  omega

/-- What a scanner's next call for a token can rely on, and what it leads to. -/
structure SafeCall (s : Scanner) : Prop where
  /-- The scanner stands between two characters of its text, or at an end. -/
  isBoundary : IsBoundary s.source s.position
  /-- It does not stand beyond the end of its text. -/
  position_le : s.position ≤ s.source.utf8ByteSize
  /-- Each look that the call takes at the text by a byte offset succeeds, and so does the cut of
  the lexeme. By these alone the call finds the same span and stops at the same place. -/
  next?_cursor : ∃ found, s.cursor.next? = some (found, s.next.2.cursor) ∧
    found.map (fun (_, _, span) => span) = s.next.1.map Token.span
  /-- A call that finds a token takes the scanner on to the end of the token, whose span covers a
  part of the text. -/
  of_some : ∀ t, s.next.1 = some t →
    s.position < s.next.2.position ∧ s.next.2.position = t.span.stop ∧
    ∃ w, t.span.textIn? s.source = some w ∧ t.span.length? = some w.utf8ByteSize
  /-- A call that finds none takes the scanner to the end of its text, where all later calls find
  none and leave the scanner as it is. -/
  of_none : s.next.1 = none →
    s.next.2.position = s.source.utf8ByteSize ∧ s.next.2.atEnd = true ∧
    ∀ more, s.next.2.after more = s.next.2 ∧ (s.next.2.after more).next = (none, s.next.2)
  /-- The scanner knows whether it has read all bytes. -/
  atEnd_iff : s.atEnd = true ↔ s.source.utf8ByteSize ≤ s.position
  /-- At the end of its text a scanner finds no token. -/
  of_atEnd : s.atEnd = true → s.next.1 = none

/-- Every call for a token is safe: where a scanner stands fits the text that it has left. -/
theorem safeCall (s : Scanner) : s.SafeCall := by
  have hsum := s.position_add_byteLength_rest
  refine ⟨s.isBoundary_position, by omega, ?cursor, ?some, ?none, s.atEnd_iff, ?atEnd⟩
  case cursor =>
    rcases h : s.next with ⟨_ | t, s'⟩
    · exact ⟨none, next?_cursor_of_eq_none h, rfl⟩
    · obtain ⟨l, -, hcursor⟩ := next?_cursor_of_eq_some h
      exact ⟨_, hcursor, rfl⟩
  case some =>
    intro t ht
    have hnext : s.next = (some t, s.next.2) := Prod.ext ht rfl
    obtain ⟨hstop, hstart, hlt⟩ := span_of_next_eq_some hnext
    obtain ⟨l, -, -, htext, -⟩ := exists_lexeme_of_next_eq_some hnext
    obtain ⟨before, after, -, hbefore, hlength⟩ := Span.textIn?_eq_some_iff.1 htext
    refine ⟨by omega, hstop, String.ofList l.text, htext, ?_⟩
    rw [Span.length?, if_pos (by omega), ← byteLength_toList]
    exact congrArg some (by omega)
  case none =>
    intro hnone
    have hnext : s.next = (none, s.next.2) := Prod.ext hnone rfl
    obtain ⟨hrest, -, hsource⟩ := rest_of_next_eq_none hnext
    have hend := s.next.2.position_add_byteLength_rest
    rw [hrest, hsource, byteLength_nil, Nat.add_zero] at hend
    refine ⟨hend, by rw [atEnd, hrest]; rfl, fun more => ?_⟩
    rw [after_of_rest_eq_nil hrest]
    exact ⟨rfl, next_of_rest_eq_nil hrest⟩
  case atEnd =>
    intro hend
    rw [next_of_rest_eq_nil (List.isEmpty_iff.1 hend)]

end Scanner

/-- A valid layout has no more lexemes than its text has characters that are no blanks. -/
theorem Layout.IsValid.length_lexemes_le {L : Layout} (h : L.IsValid) :
    L.lexemes.length ≤ L.text.countP fun c => !isWhiteSpace c := by
  induction h with
  | done hblanks => exact Nat.zero_le _
  | @piece bs lexeme rest hblanks hlexeme hends hrest ih =>
    have hcount : lexeme.text.countP (fun c => !isWhiteSpace c) = lexeme.text.length :=
      List.countP_eq_length.2 fun c hc => by rw [hlexeme.isWhiteSpace_of_mem c hc]; rfl
    have hpos := List.length_pos_iff.2 hlexeme.text_ne_nil
    rw [lexemes, List.length_cons, text, List.countP_append, List.countP_append, hcount]
    omega

/-- A text has no more tokens than characters that are no blanks. -/
theorem length_tokenize_le (text : String) :
    (tokenize text).1.length ≤ text.toList.countP fun c => !isWhiteSpace c := by
  have hlength := (Layout.isValid_ofText text.toList).length_lexemes_le
  rwa [Layout.text_ofText, ← List.length_map, ← Layout.map_textIn?_tokenize, List.length_map]
    at hlength

/-- Wherever a number of calls for a token have taken a scanner over a text, the next call is safe
and hands out the token of its number. A copy of the scanner that is made there goes the same way.
There are no more tokens than characters that are no blanks. -/
theorem calls_safe (text : String) (count : Nat) :
    let s := (Scanner.ofText text).after count
    s.source = text ∧ s.SafeCall ∧ s.next.1 = (tokenize text).1[count]? ∧
    (tokenize text).1.length ≤ text.toList.countP fun c => !isWhiteSpace c :=
  ⟨Scanner.source_after _ count, Scanner.safeCall _, Scanner.next_fst_after _ count,
    length_tokenize_le text⟩

end LogicLexer
