import LogicLexer.Proofs.Line.Place
import LogicLexer.Proofs.Report.Caret

/-!
# When a report fails

Of a diagnostic that may say anything about any position, the report fails in two cases: the
position is that of a blank with only blanks in front of it on its line, be it the line feed at the
end of a blank line, or too many characters are shown up to the position. A position without a
place has a report of the heading alone, and any other one has all rows (`report_fails_iff`).
-/

namespace LogicLexer

open Text

namespace Diagnostic

variable {source : Source} {d : Diagnostic}

/-- Without a place, a report is its heading. -/
theorem report_of_at?_eq_none (h : Place.at? source.text d.position = none) :
    d.report source = .ok (Report.header d source) := by
  rw [report, h]

/-- Where a report fails there is a character. -/
theorem exists_append_of_report_eq_error {failure : ReportFailure}
    (h : d.report source = .error failure) :
    ∃ before c after, before ++ c :: after = source.text.toList ∧
      d.position = byteLength before := by
  cases hplace : Place.at? source.text d.position with
  | none => exact absurd (h.symm.trans (report_of_at?_eq_none hplace)) (by simp)
  | some place =>
    obtain ⟨above, below, hat⟩ := Place.exists_isAt hplace
    obtain ⟨before, after, htext, hne, hposition⟩ := hat.exists_append
    obtain ⟨c, cs, rfl⟩ := List.exists_cons_of_ne_nil hne
    exact ⟨before, c, cs, htext, hposition.symm⟩

section

variable {before after : List Char} {c : Char} (htext : before ++ c :: after = source.text.toList)
  (hposition : d.position = byteLength before)
include htext hposition

/-- At a character, a report fails as the front of the line tells. -/
theorem report_eq_error_iff (failure : ReportFailure) :
    d.report source = .error failure ↔
      (∀ e ∈ lastLine before ++ [c], isWhiteSpace e = true) ∧ failure = .caretBeforeText ∨
        65535 < (trimStart (lastLine before ++ [c])).length ∧ failure = .caretTooWide := by
  rw [report_of_append htext hposition]
  by_cases hblank : ∀ e ∈ lastLine before ++ [c], isWhiteSpace e = true
  · -- Nothing is shown of blanks, so at most one of the two cases holds.
    have hshort : ¬ 65535 < (trimStart (lastLine before ++ [c])).length := by
      rw [trimStart_eq_nil_iff.2 hblank]
      exact Nat.not_lt_zero _
    rw [if_pos (List.all_eq_true.2 hblank)]
    constructor
    · intro h
      exact Or.inl ⟨hblank, (Except.error.inj h).symm⟩
    · rintro (⟨-, rfl⟩ | ⟨hwide, -⟩)
      · rfl
      · exact absurd hwide hshort
  · have hreach : ¬ (trimStart (lastLine before)).length < Report.caretLimit ↔
        65535 < (trimStart (lastLine before ++ [c])).length := by
      rw [trimStart_append_singleton hblank, List.length_append, List.length_singleton,
        Report.caretLimit]
      omega
    rw [if_neg (mt List.all_eq_true.1 hblank)]
    by_cases hwide : (trimStart (lastLine before)).length < Report.caretLimit
    · rw [if_pos hwide]
      refine iff_of_false (by simp) ?_
      rintro (⟨h, -⟩ | ⟨h, -⟩)
      · exact hblank h
      · exact hreach.2 h hwide
    · rw [if_neg hwide]
      constructor
      · intro h
        exact Or.inr ⟨hreach.1 hwide, (Except.error.inj h).symm⟩
      · rintro (⟨h, -⟩ | ⟨-, rfl⟩)
        · exact absurd h hblank
        · rfl

/-- Otherwise it has the heading and the three rows. -/
theorem report_eq_ok (hblank : ¬ ∀ e ∈ lastLine before ++ [c], isWhiteSpace e = true)
    (hwidth : (trimStart (lastLine before ++ [c])).length ≤ 65535) :
    d.report source =
      .ok (Report.header d source ++
        String.ofList (Report.barRow (before.count '\n' + 1)) ++ "\n" ++
        String.ofList (Report.textRow (before.count '\n' + 1)
          (trim (lastLine before ++ firstLine (c :: after)))) ++ "\n" ++
        String.ofList (Report.caretRow (before.count '\n' + 1)
          (trimStart (lastLine before)).length) ++ "\n") := by
  have hreach : (trimStart (lastLine before)).length < Report.caretLimit := by
    rw [trimStart_append_singleton hblank, List.length_append, List.length_singleton] at hwidth
    exact hwidth
  rw [report_of_append htext hposition, if_neg (mt List.all_eq_true.1 hblank), if_pos hreach]

end

end Diagnostic

/-- The report of any diagnostic fails just if its position is that of a character, with nothing but
blanks up to and including the character on its line, or with more than 65535 characters from the
first that is no blank. At the end of the text, beyond it, or inside a character, the report is its
heading. In all other cases the line follows, with the caret behind as many dashes as there are
characters from the first that is no blank. -/
theorem report_fails_iff (source : Source) (d : Diagnostic) :
    let heading := "Error: " ++ d.issue.name ++ (d.tip?.elim "" fun tip => " (" ++ tip ++ ")") ++
      "\n-> " ++ source.name ++ "\n"
    ((∃ failure, d.report source = .error failure) ↔
      ∃ before c after, before ++ c :: after = source.text.toList ∧
        d.position = byteLength before ∧
        ((∀ e ∈ lastLine before ++ [c], isWhiteSpace e = true) ∨
          65535 < (trimStart (lastLine before ++ [c])).length)) ∧
    (source.text.utf8ByteSize ≤ d.position ∨ ¬ IsBoundary source.text d.position →
      d.report source = .ok heading) ∧
    ∀ before c after, before ++ c :: after = source.text.toList →
      d.position = byteLength before →
      ¬ (∀ e ∈ lastLine before ++ [c], isWhiteSpace e = true) →
      (trimStart (lastLine before ++ [c])).length ≤ 65535 →
      d.report source = .ok (heading ++
        String.ofList (Report.barRow (before.count '\n' + 1)) ++ "\n" ++
        String.ofList (Report.textRow (before.count '\n' + 1)
          (trim (lastLine before ++ firstLine (c :: after)))) ++ "\n" ++
        String.ofList (Report.caretRow (before.count '\n' + 1)
          (trimStart (lastLine before)).length) ++ "\n") := by
  intro heading
  have hheading : Report.header d source = heading := Report.header_eq d source
  refine ⟨⟨?_, ?_⟩, fun hnowhere => ?_, fun before c after htext hposition hblank hwidth => ?_⟩
  · rintro ⟨failure, hfailure⟩
    obtain ⟨before, c, after, htext, hposition⟩ :=
      Diagnostic.exists_append_of_report_eq_error hfailure
    have hcases := (Diagnostic.report_eq_error_iff htext hposition failure).1 hfailure
    exact ⟨before, c, after, htext, hposition, hcases.imp And.left And.left⟩
  · rintro ⟨before, c, after, htext, hposition, hblank | hwide⟩
    · exact ⟨_, (Diagnostic.report_eq_error_iff htext hposition _).2 (Or.inl ⟨hblank, rfl⟩)⟩
    · exact ⟨_, (Diagnostic.report_eq_error_iff htext hposition _).2 (Or.inr ⟨hwide, rfl⟩)⟩
  · have hnone : Place.at? source.text d.position = none := by
      rw [Option.eq_none_iff_forall_ne_some, ← not_exists, Place.exists_at?_eq_iff,
        Classical.not_and_iff_not_or_not, Nat.not_lt]
      exact hnowhere
    rw [Diagnostic.report_of_at?_eq_none hnone, hheading]
  · rw [Diagnostic.report_eq_ok htext hposition hblank hwidth, hheading]

/-- The line feed of a blank line, a letter behind blanks, and the end of the text, with all issues
and both tips. -/
theorem report_fails_iff_blankLine :
    let source : Source := ⟨"input.txt", "a\n\n  b"⟩
    (∃ failure, (Diagnostic.mk .malformedNumber "1a" 2).report source = .error failure) ∧
      (Diagnostic.mk .unrecognisedSymbol "?" 5).report source =
        .ok "Error: UnrecognisedSymbol\n-> input.txt\n  |\n3 | b\n  | ^\n" ∧
      (Diagnostic.mk .malformedNumber "1a" 5).report source =
        .ok ("Error: MalformedNumber (`1a` starts with digits but continues with letters)\n" ++
          "-> input.txt\n  |\n3 | b\n  | ^\n") ∧
      (Diagnostic.mk .integerOverflow "9" 6).report source =
        .ok ("Error: IntegerOverflow (Invalid number: `9`, is it above the integer limit?)\n" ++
          "-> input.txt\n") := by
  intro source
  have hletter := fun issue lexeme => (report_fails_iff source ⟨issue, lexeme, 5⟩).2.2
    ['a', '\n', '\n', ' ', ' '] 'b' [] (by decide +kernel) (by decide +kernel : 5 = byteLength _)
    (mt List.all_eq_true.2 (by decide +kernel)) (by decide +kernel)
  refine ⟨?_, ?_, ?_, ?_⟩
  · refine (report_fails_iff source _).1.2 ⟨['a', '\n'], '\n', [' ', ' ', 'b'], ?_⟩
    exact ⟨by decide +kernel, by decide +kernel, Or.inl (List.all_eq_true.1 (by decide +kernel))⟩
  · exact (hletter _ _).trans (congrArg Except.ok (by decide +kernel))
  · exact (hletter _ _).trans (congrArg Except.ok (by decide +kernel))
  · have hreport := (report_fails_iff source ⟨.integerOverflow, "9", 6⟩).2.1
      (Or.inl (by decide +kernel))
    exact hreport.trans (congrArg Except.ok (by decide +kernel))

end LogicLexer
