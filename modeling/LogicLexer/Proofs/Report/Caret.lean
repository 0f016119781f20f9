import LogicLexer.Proofs.Layout.Coverage
import LogicLexer.Proofs.Lexeme.Kind
import LogicLexer.Proofs.Line
import LogicLexer.Proofs.Text.Trimming
import LogicLexer.Report

/-!
# The caret stands under the error

A report shows the line of an error without the blanks at its ends, and puts the caret under the
first character of the error (`report_pointsAt`). The caret is as far to the right as the error has
characters in front of it on its line, leading blanks left aside (`Report.dashes`). Whether the
report can be drawn is only a matter of that distance (`report_completes_iff`): a line that is long
enough takes the caret out of reach (`report_longLine`).

All rests on errors being words: a lexeme holds no blank, so it lies in one line, none of its
characters is among the blanks that are left out, and what is trimmed away stands in front of it or
behind it (`trim_of_word`).
-/

namespace LogicLexer

open Text

/-! ## The rows of a report -/

namespace Report

/-- The number of characters of a line that a report shows in front of a position. -/
def dashes (text : String) (position : Nat) : Nat :=
  match splitAtByte? position text.toList with
  | some (before, _) => (trimStart (lastLine before)).length
  | none => 0

/-- The row of the bar. -/
def barRow (line : Nat) : List Char :=
  List.replicate (line.repr.length + 1) ' ' ++ ['|']

/-- The row of the source text. -/
def textRow (line : Nat) (shown : List Char) : List Char :=
  line.repr.toList ++ ' ' :: '|' :: ' ' :: shown

/-- The row of the caret. -/
def caretRow (line dashes : Nat) : List Char :=
  List.replicate (line.repr.length + 1) ' ' ++ '|' :: ' ' :: (List.replicate dashes '-' ++ ['^'])

/-- The characters that a report shows in front of a place of the text. -/
theorem dashes_of_append {text : String} {before after : List Char}
    (h : before ++ after = text.toList) :
    dashes text (byteLength before) = (trimStart (lastLine before)).length := by
  have hcut := splitAtByte?_eq_some_iff.2 ⟨h, rfl⟩
  rw [dashes, hcut]

/-- The caret stands as far to the right as the line is shown in front of a character, unless this
is among the blanks that are left out. -/
theorem caretWidth_of_append (line : Nat) (left : List Char) (c : Char) (rest : List Char) :
    caretWidth ⟨line, left ++ c :: rest, left.length⟩ =
      if (left ++ [c]).all isWhiteSpace then .error .caretBeforeText
      else if (trimStart left).length < caretLimit then .ok ((trimStart left).length + 1)
      else .error .caretTooWide := by
  unfold caretWidth
  dsimp only
  by_cases hall : (left ++ [c]).all isWhiteSpace = true
  · have hblanks : (left ++ c :: rest).takeWhile isWhiteSpace =
        left ++ [c] ++ rest.takeWhile isWhiteSpace := by
      rw [List.append_cons, List.takeWhile_append_of_pos (List.all_eq_true.1 hall)]
    have hlt : left.length < (left ++ [c] ++ rest.takeWhile isWhiteSpace).length := by
      simp only [List.length_append, List.length_singleton]
      omega
    rw [if_pos hall, hblanks, if_pos hlt]
  · have hblanks : (left ++ c :: rest).takeWhile isWhiteSpace = left.takeWhile isWhiteSpace := by
      by_cases hc : isWhiteSpace c = true
      · have hshort : ¬ (left.takeWhile isWhiteSpace).length = left.length := by
          intro hlength
          have hself := (List.takeWhile_prefix isWhiteSpace).eq_of_length hlength
          have hleft : ∀ e ∈ left, isWhiteSpace e = true := fun e he =>
            of_mem_takeWhile (hself.symm ▸ he)
          exact hall (List.all_eq_true.2
            (List.forall_mem_append.2 ⟨hleft, List.forall_mem_singleton.2 hc⟩))
        rw [List.takeWhile_append, if_neg hshort]
      · exact takeWhile_append_stops (stops_cons.2 (Bool.eq_false_iff.2 hc)) left
    have hlength :
        (left.takeWhile isWhiteSpace).length + (trimStart left).length = left.length := by
      rw [← List.length_append, trimStart, List.takeWhile_append_dropWhile]
    have hdistance : left.length - (left.takeWhile isWhiteSpace).length =
        (trimStart left).length := by omega
    rw [if_neg hall, hblanks, if_neg (by omega), hdistance]
    by_cases hreach : (trimStart left).length < caretLimit
    · rw [if_neg (by omega), if_pos hreach]
    · rw [if_pos (by omega), if_neg hreach]

/-- The heading of a report, with the tip if there is one. -/
theorem header_eq (d : Diagnostic) (source : Source) :
    header d source = "Error: " ++ d.issue.name ++
      (d.tip?.elim "" fun tip => " (" ++ tip ++ ")") ++ "\n-> " ++ source.name ++ "\n" := by
  unfold header
  cases d.tip? <;> rfl

/-- The three rows one after the other. -/
theorem rows_eq (place : Place) (distance : Nat) :
    rows place (distance + 1) =
      String.ofList (barRow place.line) ++ "\n" ++
        String.ofList (textRow place.line (trim place.content)) ++ "\n" ++
        String.ofList (caretRow place.line distance) ++ "\n" := by
  rw [← String.toList_inj]
  simp [rows, bar, barRow, textRow, caretRow, String.toList_append]

/-- A character is first met behind all that is not it. -/
theorem idxOf_append_cons {c : Char} {xs : List Char} (h : c ∉ xs) (ys : List Char) :
    (xs ++ c :: ys).idxOf c = xs.length := by
  rw [List.idxOf_append, if_neg h, List.idxOf_cons_self, Nat.zero_add]

/-- In each row the bar stands behind the width of the number and a space. -/
theorem idxOf_bar (line distance : Nat) (shown : List Char) :
    (barRow line).idxOf '|' = line.repr.length + 1 ∧
      (textRow line shown).idxOf '|' = line.repr.length + 1 ∧
      (caretRow line distance).idxOf '|' = line.repr.length + 1 := by
  have hspaces : '|' ∉ List.replicate (line.repr.length + 1) ' ' := fun h =>
    absurd (List.eq_of_mem_replicate h) (by decide)
  have hdigits : '|' ∉ Nat.toDigits 10 line := (isDigits_toDigits line).notMem rfl
  have hnumber : '|' ∉ line.repr.toList ++ [' '] := by simp [hdigits]
  have htext : textRow line shown = line.repr.toList ++ [' '] ++ '|' :: ' ' :: shown := by
    simp [textRow]
  refine ⟨?_, ?_, ?_⟩
  · rw [barRow, idxOf_append_cons hspaces, List.length_replicate]
  · rw [htext, idxOf_append_cons hnumber, List.length_append, String.length_toList]
    rfl
  · rw [caretRow, idxOf_append_cons hspaces, List.length_replicate]

/-- The caret stands behind the bar, a space and the dashes. -/
theorem idxOf_caret (line distance : Nat) :
    (caretRow line distance).idxOf '^' = line.repr.length + 3 + distance := by
  have hfront : '^' ∉ List.replicate (line.repr.length + 1) ' ' ++ '|' :: ' ' ::
      List.replicate distance '-' := by
    simp [List.mem_replicate]
  have hrow : caretRow line distance = List.replicate (line.repr.length + 1) ' ' ++ '|' :: ' ' ::
      List.replicate distance '-' ++ '^' :: [] := by
    simp [caretRow]
  rw [hrow, idxOf_append_cons hfront]
  simp only [List.length_append, List.length_cons, List.length_replicate]
  omega

/-- What a report shows below its heading, of a word in a text with something in front of it and
behind it. -/
structure PointsAt (before word after bars shown carets : List Char) : Prop where
  /-- The first row is a bar behind the width of the line's number and a space. -/
  barRow : bars = List.replicate ((before.count '\n' + 1).repr.length + 1) ' ' ++ ['|']
  /-- The second row is the number of the line, a bar, and the line without the blanks at its
  ends. -/
  textRow : shown = (before.count '\n' + 1).repr.toList ++ [' ', '|', ' '] ++
    trim (lastLine before ++ word ++ firstLine after)
  /-- The third row is a bar, a dash for each character of the line that is shown in front of the
  word, and the caret. -/
  caretRow : carets = List.replicate ((before.count '\n' + 1).repr.length + 1) ' ' ++ ['|', ' '] ++
    List.replicate (trimStart (lastLine before)).length '-' ++ ['^']
  /-- The bars stand one below the other. -/
  bars : bars.idxOf '|' = shown.idxOf '|' ∧ carets.idxOf '|' = shown.idxOf '|'
  /-- The caret is as far to the right as the number, the bar between spaces, and what is shown of
  the line in front of the word. -/
  offset : carets.idxOf '^' =
    (before.count '\n' + 1).repr.length + 3 + (trimStart (lastLine before)).length
  /-- These are what stands in front of that place in the second row. -/
  front : shown.take (carets.idxOf '^') =
    (before.count '\n' + 1).repr.toList ++ [' ', '|', ' '] ++ trimStart (lastLine before)
  /-- The caret stands where the word starts. -/
  caret : word <+: shown.drop (carets.idxOf '^')

/-- The rows of the line of a word point at the word. -/
theorem pointsAt_rows {before word after : List Char} (hne : word ≠ [])
    (hword : ∀ c ∈ word, isWhiteSpace c = false) :
    PointsAt before word after (Report.barRow (before.count '\n' + 1))
      (Report.textRow (before.count '\n' + 1) (trim (lastLine before ++ word ++ firstLine after)))
      (Report.caretRow (before.count '\n' + 1) (trimStart (lastLine before)).length) := by
  have hshown := trim_of_word hne hword (lastLine before) (firstLine after)
  -- In front of the word stand the number, the bar between spaces, and what the dashes stand for.
  have hrow : Report.textRow (before.count '\n' + 1)
      (trim (lastLine before ++ word ++ firstLine after)) =
      ((before.count '\n' + 1).repr.toList ++ [' ', '|', ' '] ++ trimStart (lastLine before)) ++
        (word ++ trimEnd (firstLine after)) := by
    rw [hshown]
    simp [Report.textRow]
  have hfront : ((before.count '\n' + 1).repr.toList ++ [' ', '|', ' '] ++
      trimStart (lastLine before)).length =
      (before.count '\n' + 1).repr.length + 3 + (trimStart (lastLine before)).length := by
    rw [List.length_append, List.length_append, String.length_toList]
    rfl
  constructor
  case barRow => rfl
  case textRow => simp [Report.textRow]
  case caretRow => simp [Report.caretRow]
  case bars =>
    obtain ⟨hbar, htext, hcaret⟩ := idxOf_bar (before.count '\n' + 1)
      (trimStart (lastLine before)).length
      (trim (lastLine before ++ word ++ firstLine after))
    exact ⟨hbar.trans htext.symm, hcaret.trans htext.symm⟩
  case offset => exact idxOf_caret _ _
  case front => rw [hrow, idxOf_caret, List.take_left' hfront]
  case caret =>
    rw [hrow, idxOf_caret, List.drop_left' hfront]
    exact List.prefix_append _ _

end Report

/-! ## Reports of the errors of a text -/

/-- The report at a character of a text, whatever is said about it. -/
theorem Diagnostic.report_of_append {source : Source} {d : Diagnostic} {before after : List Char}
    {c : Char} (htext : before ++ c :: after = source.text.toList)
    (hposition : d.position = byteLength before) :
    d.report source =
      if (lastLine before ++ [c]).all isWhiteSpace then .error .caretBeforeText
      else if (trimStart (lastLine before)).length < Report.caretLimit then
        .ok (Report.header d source ++
          String.ofList (Report.barRow (before.count '\n' + 1)) ++ "\n" ++
          String.ofList (Report.textRow (before.count '\n' + 1)
            (trim (lastLine before ++ firstLine (c :: after)))) ++ "\n" ++
          String.ofList (Report.caretRow (before.count '\n' + 1)
            (trimStart (lastLine before)).length) ++ "\n")
      else .error .caretTooWide := by
  obtain ⟨ending, hending, ⟨below, hfront⟩, hne, hplace⟩ :=
    Place.at?_of_append htext (List.cons_ne_nil c after)
  have htrim : trim (lastLine before ++ (firstLine (c :: after) ++ ending)) =
      trim (lastLine before ++ firstLine (c :: after)) := by
    rw [← List.append_assoc]
    exact trim_append_blanks (fun e he => by rw [hending e he]; decide) _
  -- The rest of the line starts with the character.
  obtain ⟨e, rest, hrest⟩ := List.exists_cons_of_ne_nil hne
  obtain rfl : e = c := by
    rw [hrest, List.cons_append] at hfront
    exact (List.cons.inj hfront).1
  have hwidth := Report.caretWidth_of_append (before.count '\n' + 1) (lastLine before) e rest
  rw [← hrest] at hwidth
  rw [Diagnostic.report, hposition, hplace]
  dsimp only
  rw [hwidth]
  by_cases hblank : (lastLine before ++ [e]).all isWhiteSpace = true
  · rw [if_pos hblank, if_pos hblank]
  · rw [if_neg hblank, if_neg hblank]
    by_cases hreach : (trimStart (lastLine before)).length < Report.caretLimit
    · rw [if_pos hreach, if_pos hreach]
      dsimp only
      rw [Report.rows_eq, htrim]
      simp only [String.append_assoc]
    · rw [if_neg hreach, if_neg hreach]

/-- The report of a word of a text, whatever is said about it. -/
theorem Diagnostic.report_of_word {source : Source} {d : Diagnostic} {before word after : List Char}
    (htext : before ++ word ++ after = source.text.toList)
    (hposition : d.position = byteLength before) (hne : word ≠ [])
    (hword : ∀ c ∈ word, isWhiteSpace c = false) :
    d.report source =
      if Report.dashes source.text d.position < Report.caretLimit then
        .ok (Report.header d source ++
          String.ofList (Report.barRow (before.count '\n' + 1)) ++ "\n" ++
          String.ofList (Report.textRow (before.count '\n' + 1)
            (trim (lastLine before ++ word ++ firstLine after))) ++ "\n" ++
          String.ofList (Report.caretRow (before.count '\n' + 1)
            (Report.dashes source.text d.position)) ++ "\n")
      else .error .caretTooWide := by
  have hfeed : '\n' ∉ word := fun h => absurd (hword _ h) (by decide)
  have hdashes : Report.dashes source.text d.position = (trimStart (lastLine before)).length := by
    rw [hposition]
    exact Report.dashes_of_append (by rw [← htext, List.append_assoc])
  have hline := firstLine_append hfeed after
  obtain ⟨c, cs, rfl⟩ := List.exists_cons_of_ne_nil hne
  have hshown : ¬ (lastLine before ++ [c]).all isWhiteSpace = true := fun hall =>
    absurd (hword c List.mem_cons_self) (by simp [List.all_eq_true.1 hall c (by simp)])
  have hfront : before ++ c :: (cs ++ after) = source.text.toList := by
    rw [← htext, List.append_assoc, List.cons_append]
  have hreport := Diagnostic.report_of_append hfront hposition
  rw [if_neg hshown, ← List.cons_append, hline, ← List.append_assoc] at hreport
  rw [hdashes, hreport]

/-- The diagnostic of a token of a text is about a word of the text, which the token covers. -/
theorem Token.exists_word_of_diagnostic? {source : String} {t : Token} {d : Diagnostic}
    (ht : t ∈ (tokenize source).1) (hd : t.diagnostic? = some d) :
    ∃ before after, before ++ d.lexeme.toList ++ after = source.toList ∧
      d.position = byteLength before ∧
      t.span = ⟨byteLength before, byteLength before + byteLength d.lexeme.toList⟩ ∧
      d.lexeme.toList ≠ [] ∧ ∀ c ∈ d.lexeme.toList, isWhiteSpace c = false := by
  obtain ⟨before, after, l, learnt, hvalid, htext, hvalue, hspan⟩ :=
    Layout.exists_lexeme_of_mem_tokenize ht
  obtain ⟨value, span⟩ := t
  cases value with
  | error w issue =>
    obtain rfl : ⟨issue, w, span.start⟩ = d := Option.some.inj hd
    have hw : w.toList = l.text := Lexeme.toList_of_value_eq_error hvalue.symm
    have hspan : span = ⟨byteLength before, byteLength before + byteLength l.text⟩ := hspan
    dsimp only
    rw [hw]
    exact ⟨before, after, htext, by rw [hspan], hspan, hvalid.text_ne_nil,
      hvalid.isWhiteSpace_of_mem⟩
  | _ => exact absurd hd (by simp [diagnostic?])

/-- Just an unrecognised symbol has no tip. -/
theorem Diagnostic.tip?_eq_none_iff (d : Diagnostic) :
    d.tip? = none ↔ d.issue = .unrecognisedSymbol := by
  obtain ⟨issue, lexeme, position⟩ := d
  cases issue <;> simp [tip?]

/-- A tip quotes the error, and tells how it comes to be one. -/
theorem Diagnostic.tip?_eq_some_iff (d : Diagnostic) (tip : String) :
    d.tip? = some tip ↔
      d.issue = .malformedNumber ∧
          tip = "`" ++ d.lexeme ++ "` starts with digits but continues with letters" ∨
        d.issue = .integerOverflow ∧
          tip = "Invalid number: `" ++ d.lexeme ++ "`, is it above the integer limit?" := by
  obtain ⟨issue, lexeme, position⟩ := d
  cases issue <;> simp [tip?, eq_comm]

/-- The report of an error of a text has the name of the issue, with a tip unless a symbol is not
recognised, then the name of the source, and the line of the error with the caret under the first
character of the error, if the caret is in reach. The line is always found, and the error always
stands behind the blanks in front of it. -/
theorem report_pointsAt (source : Source) {t : Token} {d : Diagnostic}
    (ht : t ∈ (tokenize source.text).1) (hd : t.diagnostic? = some d) :
    (∃ place, Place.at? source.text d.position = some place ∧
      (place.content.takeWhile isWhiteSpace).length ≤ place.column) ∧
    (d.tip? = none ↔ d.issue = .unrecognisedSymbol) ∧
    (∀ tip, d.tip? = some tip ↔
      d.issue = .malformedNumber ∧
          tip = "`" ++ d.lexeme ++ "` starts with digits but continues with letters" ∨
        d.issue = .integerOverflow ∧
          tip = "Invalid number: `" ++ d.lexeme ++ "`, is it above the integer limit?") ∧
    ∃ before after, before ++ d.lexeme.toList ++ after = source.text.toList ∧
      t.span = ⟨byteLength before, byteLength before + byteLength d.lexeme.toList⟩ ∧
      (Report.dashes source.text d.position + 1 ≤ 65535 → ∃ bars shown carets,
        Report.PointsAt before d.lexeme.toList after bars shown carets ∧
        d.report source = .ok ("Error: " ++ d.issue.name ++
          (d.tip?.elim "" fun tip => " (" ++ tip ++ ")") ++ "\n-> " ++ source.name ++ "\n" ++
          String.ofList bars ++ "\n" ++ String.ofList shown ++ "\n" ++
          String.ofList carets ++ "\n")) := by
  obtain ⟨before, after, htext, hposition, hspan, hne, hword⟩ :=
    Token.exists_word_of_diagnostic? ht hd
  have hfeed : '\n' ∉ d.lexeme.toList := fun h => absurd (hword _ h) (by decide)
  obtain ⟨ending, -, hplace⟩ := Place.at?_of_word htext hne hfeed
  refine ⟨⟨_, hposition ▸ hplace, ?_⟩, d.tip?_eq_none_iff, d.tip?_eq_some_iff, before, after,
    htext, hspan, fun hreach => ⟨_, _, _, Report.pointsAt_rows hne hword, ?_⟩⟩
  · -- The blanks in front of the line end before the word does.
    dsimp only
    rw [List.append_assoc, List.append_assoc,
      takeWhile_append_stops (stops_word hne hword (firstLine after ++ ending))]
    exact (List.takeWhile_prefix _).length_le
  · have hdashes : Report.dashes source.text d.position = (trimStart (lastLine before)).length := by
      rw [hposition]
      exact Report.dashes_of_append (by rw [← htext, List.append_assoc])
    have hlt : Report.dashes source.text d.position < Report.caretLimit := hreach
    rw [Diagnostic.report_of_word htext hposition hne hword, if_pos hlt, Report.header_eq, hdashes]

/-- An error behind a blank line, leading blanks, and another error like it. -/
theorem report_pointsAt_malformedNumber :
    let source : Source := ⟨"input.txt", "x 45\n\n \t34RR 34RR y\r\n"⟩
    let t : Token := ⟨.error "34RR" .malformedNumber, ⟨13, 17⟩⟩
    let d : Diagnostic := ⟨.malformedNumber, "34RR", 13⟩
    t ∈ (tokenize source.text).1 ∧ t.diagnostic? = some d ∧
      Report.dashes source.text d.position = 5 ∧
      Report.PointsAt "x 45\n\n \t34RR ".toList "34RR".toList " y\r\n".toList "  |".toList
        "3 | 34RR 34RR y".toList "  | -----^".toList ∧
      d.report source = .ok
        ("Error: MalformedNumber (`34RR` starts with digits but continues with letters)\n" ++
          "-> input.txt\n  |\n3 | 34RR 34RR y\n  | -----^\n") := by
  intro source t d
  have ht : t ∈ (tokenize source.text).1 := by decide +kernel
  have hdashes : Report.dashes source.text d.position = 5 := by decide +kernel
  obtain ⟨-, -, htip, before, after, htext, hspan, hreport⟩ :=
    report_pointsAt source ht (rfl : _ = some d)
  obtain ⟨bars, shown, carets, hpoints, hreport⟩ := hreport (by rw [hdashes]; decide)
  -- The position tells what stands in front of the error and behind it.
  have hcut : splitAtByte? 13 source.text.toList = some (before, d.lexeme.toList ++ after) :=
    splitAtByte?_eq_some_iff.2
      ⟨(List.append_assoc ..).symm.trans htext, (congrArg Span.start hspan).symm⟩
  have hparts : splitAtByte? 13 source.text.toList =
      some ("x 45\n\n \t34RR ".toList, d.lexeme.toList ++ " y\r\n".toList) := by
    decide +kernel
  obtain ⟨rfl, hbehind⟩ := Prod.mk.inj (Option.some.inj (hcut.symm.trans hparts))
  obtain rfl := List.append_cancel_left hbehind
  have hbars : bars = "  |".toList := hpoints.barRow.trans (by decide +kernel)
  have hshown : shown = "3 | 34RR 34RR y".toList := hpoints.textRow.trans (by decide +kernel)
  have hcarets : carets = "  | -----^".toList := hpoints.caretRow.trans (by decide +kernel)
  subst hbars hshown hcarets
  refine ⟨ht, rfl, hdashes, hpoints, hreport.trans (congrArg Except.ok ?_)⟩
  rw [(htip _).2 (Or.inl ⟨rfl, rfl⟩)]
  decide +kernel

/-! ## The reach of the caret -/

/-- The report of an error of a text can be drawn just if the caret is in reach, and nothing else
can be wrong with it. -/
theorem report_completes_iff (source : Source) {d : Diagnostic}
    (hd : d ∈ (tokenize source.text).1.filterMap Token.diagnostic?) :
    ((∃ report, d.report source = .ok report) ↔
      Report.dashes source.text d.position + 1 ≤ 65535) ∧
    (65535 < Report.dashes source.text d.position + 1 →
      d.report source = .error .caretTooWide) := by
  obtain ⟨t, ht, hdiagnostic⟩ := List.mem_filterMap.1 hd
  obtain ⟨before, after, htext, hposition, -, hne, hword⟩ :=
    Token.exists_word_of_diagnostic? ht hdiagnostic
  have hreport := Diagnostic.report_of_word htext hposition hne hword
  by_cases hreach : Report.dashes source.text d.position < Report.caretLimit
  · rw [if_pos hreach] at hreport
    exact ⟨iff_of_true ⟨_, hreport⟩ hreach, fun h => absurd h (Nat.not_lt.2 hreach)⟩
  · rw [if_neg hreach] at hreport
    exact ⟨iff_of_false (by simp [hreport]) hreach, fun _ => hreport⟩

/-- An error that begins its line is in reach, however long the line is. -/
theorem report_completes_iff_symbol :
    let source : Source := ⟨"input.txt", "a\n @b"⟩
    let d : Diagnostic := ⟨.unrecognisedSymbol, "@", 3⟩
    d ∈ (tokenize source.text).1.filterMap Token.diagnostic? ∧
      ∃ report, d.report source = .ok report := by
  intro source d
  have hd : d ∈ (tokenize source.text).1.filterMap Token.diagnostic? := by decide +kernel
  have hdashes : Report.dashes source.text d.position = 0 := by decide +kernel
  exact ⟨hd, (report_completes_iff source hd).1.2 (by rw [hdashes]; decide)⟩

/-- The bytes of a character that is repeated. -/
theorem byteLength_replicate (n : Nat) (c : Char) :
    byteLength (List.replicate n c) = n * c.utf8Size := by
  induction n with
  | zero => simp
  | succ n ih => rw [List.replicate_succ, byteLength_cons, ih, Nat.succ_mul, Nat.add_comm]

/-- Letters and a symbol behind them. -/
def lettersSymbol (n : Nat) : List Char :=
  List.replicate n 'a' ++ ['@']

/-- A text that starts with letters and a symbol starts with a name and an error. -/
theorem tokenize_lettersSymbol_append {n : Nat} (hn : n ≠ 0) {rest : List Char}
    (hends : (Lexeme.unrecognised ['@']).EndsAt rest) :
    let table := SymbolTable.empty.insert (String.ofList (List.replicate n 'a'))
    tokenize (String.ofList (lettersSymbol n ++ rest)) =
      (⟨.identifier 0, ⟨0, n⟩⟩ :: ⟨.error "@" .unrecognisedSymbol, ⟨n, n + 1⟩⟩ ::
          (Layout.ofText rest).tokens (n + 1) table,
        (Layout.ofText rest).symbols table) := by
  intro table
  have hnone : ∀ c ∈ ([] : List Char), isWhiteSpace c = true := List.forall_mem_nil _
  have hname : (Lexeme.identifier (List.replicate n 'a')).IsValid := by
    obtain ⟨m, rfl⟩ := Nat.exists_eq_succ_of_ne_zero hn
    rw [List.replicate_succ]
    refine .identifier (by decide +kernel) fun c hc => ?_
    rw [List.eq_of_mem_replicate hc]
    decide +kernel
  have hsymbol : (Lexeme.unrecognised ['@']).IsValid :=
    .unrecognised (by decide +kernel) (List.forall_mem_nil _)
  have hstop : isIdentifierContinue '@' = false := by decide +kernel
  rw [← Layout.text_ofText rest] at hends
  have hvalid : (Layout.piece [] (.identifier (List.replicate n 'a'))
      (.piece [] (.unrecognised ['@']) (Layout.ofText rest))).IsValid :=
    .piece hnone hname (stops_cons.2 hstop)
      (.piece hnone hsymbol hends (Layout.isValid_ofText rest))
  have hlayout : Layout.ofText (lettersSymbol n ++ rest) =
      .piece [] (.identifier (List.replicate n 'a'))
        (.piece [] (.unrecognised ['@']) (Layout.ofText rest)) := by
    refine hvalid.eq_ofText ?_
    simp only [Layout.text, Lexeme.text, Layout.text_ofText, lettersSymbol, List.nil_append,
      List.append_assoc]
  have hbytes : byteLength (List.replicate n 'a') = n :=
    (byteLength_replicate n 'a').trans (Nat.mul_one n)
  refine Prod.ext ?_ ?_
  · rw [Layout.tokens_tokenize, String.toList_ofList, hlayout]
    simp only [Layout.tokens, Lexeme.text, byteLength_nil, hbytes, Nat.zero_add, Nat.add_zero]
    rfl
  · rw [Layout.symbols_tokenize, String.toList_ofList, hlayout]
    rfl

/-- Letters are shown as they are. -/
theorem trimStart_lastLine_letters (n : Nat) :
    trimStart (lastLine (List.replicate n 'a')) = List.replicate n 'a' := by
  have hline : lastLine (List.replicate n 'a') = List.replicate n 'a' := by
    rw [lastLine, List.reverse_replicate, List.takeWhile_replicate, if_pos (by decide),
      List.reverse_replicate]
  rw [hline, trimStart, List.dropWhile_replicate, if_neg (by decide)]

/-- The report of a symbol behind so many letters cannot be drawn. -/
theorem report_lettersSymbol {source : Source} {n : Nat} {rest : List Char}
    (hsource : source.text = String.ofList (lettersSymbol n ++ rest))
    (hn : Report.caretLimit ≤ n) :
    (Diagnostic.mk .unrecognisedSymbol "@" n).report source = .error .caretTooWide := by
  have hbytes : byteLength (List.replicate n 'a') = n :=
    (byteLength_replicate n 'a').trans (Nat.mul_one n)
  have htext : List.replicate n 'a' ++ ['@'] ++ rest = source.text.toList := by
    rw [hsource, String.toList_ofList, lettersSymbol]
  have hword : ∀ c ∈ ['@'], isWhiteSpace c = false :=
    List.forall_mem_singleton.2 (by decide +kernel)
  have hdashes : Report.dashes source.text n = n := by
    have hshown := Report.dashes_of_append ((List.append_assoc ..).symm.trans htext)
    rwa [hbytes, trimStart_lastLine_letters, List.length_replicate] at hshown
  rw [Diagnostic.report_of_word htext hbytes.symm (by simp) hword]
  dsimp only
  rw [hdashes, if_neg (Nat.not_lt.2 hn)]

/-- Letters as far as the caret reaches, and a symbol behind them. -/
def longLine : Source :=
  ⟨"long.txt", String.ofList (lettersSymbol 65535)⟩

/-- On a line that is long enough, a symbol is out of reach. -/
theorem report_longLine :
    let d : Diagnostic := ⟨.unrecognisedSymbol, "@", 65535⟩
    d ∈ (tokenize longLine.text).1.filterMap Token.diagnostic? ∧
      d.report longLine = .error .caretTooWide := by
  have htext : longLine.text = String.ofList (lettersSymbol 65535 ++ []) := by
    rw [List.append_nil]
    rfl
  have hscan := tokenize_lettersSymbol_append (n := 65535) (by decide) (Lexeme.endsAt_nil _)
  refine ⟨List.mem_filterMap.2 ⟨⟨.error "@" .unrecognisedSymbol, ⟨65535, 65536⟩⟩, ?_, rfl⟩,
    report_lettersSymbol htext (Nat.le_refl _)⟩
  rw [htext, hscan]
  exact List.mem_cons_of_mem _ List.mem_cons_self

end LogicLexer
