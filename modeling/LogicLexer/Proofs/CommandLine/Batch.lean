import LogicLexer.CommandLine
import LogicLexer.Proofs.CommandLine.Options
import LogicLexer.Proofs.Report.Caret
import Mathlib.Data.List.Forall2

/-!
# What a batch run prints

A batch run asks its scanner for one token after the other. It prints the token if its kind is asked
for, and reports it if it is an error, before it asks for the next one; the table is printed when
there are no more tokens. All the same, a run comes to what `tokenize` says of the text as a whole
(`batch_eq`), as long as all reports can be drawn: the tokens of the kinds that are asked for, the
reports of all errors, and the table of all names.

A token is printed or not and reported or not, each on its own, so the options do not interfere.
`BatchRun` says which runs these are, and `run_batch` puts all together.
-/

namespace LogicLexer

open Text

/-- Lines one below the other. -/
def Text.unlines (lines : List String) : String :=
  String.join (lines.map (· ++ "\n"))

@[simp] theorem Text.unlines_nil : unlines [] = "" := rfl

@[simp] theorem Text.unlines_cons (line : String) (lines : List String) :
    unlines (line :: lines) = line ++ "\n" ++ unlines lines :=
  String.join_cons

/-- The carets of all reports about a source are in reach. -/
def Source.InReach (source : Source) : Prop :=
  ∀ d ∈ (tokenize source.text).1.filterMap Token.diagnostic?,
    Report.dashes source.text d.position + 1 ≤ Report.caretLimit

/-- A token is an error with the given report. -/
def Token.HasReport (source : Source) (t : Token) (report : String) : Prop :=
  ∃ d, t.diagnostic? = some d ∧ d.report source = .ok report

/-- A token has one report. -/
theorem Token.HasReport.rightUnique {source : Source} :
    Relator.RightUnique (Token.HasReport source) := by
  intro t report report' h h'
  obtain ⟨d, hd, hreport⟩ := h
  obtain ⟨d', hd', hreport'⟩ := h'
  obtain rfl : d = d' := Option.some.inj (hd.symm.trans hd')
  exact Except.ok.inj (hreport.symm.trans hreport')

/-- If all carets are in reach, all errors have reports. -/
theorem Source.InReach.exists_report {source : Source} (h : source.InReach) {t : Token}
    {d : Diagnostic} (ht : t ∈ (tokenize source.text).1) (hd : t.diagnostic? = some d) :
    ∃ report, d.report source = .ok report := by
  have hreach := h d (List.mem_filterMap.2 ⟨t, ht, hd⟩)
  obtain ⟨before, after, htext, hposition, -, hne, hword⟩ := t.exists_word_of_diagnostic? ht hd
  exact ⟨_, (Diagnostic.report_of_word htext hposition hne hword).trans (if_pos hreach)⟩

namespace CommandLine

/-- Whether a token is of a kind that is asked for. Where no kind is, all are. -/
def asksFor (only : List Kind) (t : Token) : Bool :=
  only.isEmpty || only.contains t.kind

/-- The lines of the tokens of a text that are asked for. -/
def tokenLines (only : List Kind) (text : String) : List String :=
  ((tokenize text).1.filter (asksFor only)).map Token.text

/-! ## One token after the other -/

/-- Where there are no more tokens, the run is over. -/
theorem printFrom_of_next_eq_none (o : Options) (source : Source) {s s' : Scanner}
    (h : s.next = (none, s')) :
    printFrom o source s = ⟨0, if o.has .table then s'.symbols.listing else "", ""⟩ := by
  rw [printFrom]
  split <;> simp_all

/-- What is printed of a token, and its report, come before what is printed of the others. -/
theorem printFrom_of_next_eq_some (o : Options) (source : Source) {s s' : Scanner} {t : Token}
    {report : String} (h : s.next = (some t, s')) (hreport : tokenReport o source t = .ok report) :
    printFrom o source s =
      ⟨(printFrom o source s').code, tokenLine o t ++ (printFrom o source s').output,
        report ++ (printFrom o source s').errors⟩ := by
  rw [printFrom]
  split <;> simp_all

/-- Where all reports can be drawn, the lines and the reports of all tokens are printed, and the
last symbol table. -/
theorem printFrom_eq (o : Options) (source : Source) {s : Scanner} {reports : List String}
    (h : s.drain.1.map (tokenReport o source) = reports.map Except.ok) :
    printFrom o source s =
      ⟨0, String.join (s.drain.1.map (tokenLine o)) ++
          (if o.has .table then s.drain.2.symbols.listing else ""),
        String.join reports⟩ := by
  -- By the recursion of the run: each token leaves less text.
  rcases hnext : s.next with ⟨_ | t, s'⟩
  · rw [Scanner.drain_of_next_eq_none hnext] at h ⊢
    obtain rfl : reports = [] := by simpa using h.symm
    exact printFrom_of_next_eq_none o source hnext
  · have hless := Scanner.length_rest_next_lt hnext
    rw [Scanner.drain_of_next_eq_some hnext] at h ⊢
    obtain ⟨report, rest, rfl, hreport, hrest⟩ :=
      List.map_eq_cons_iff.1 (h.symm.trans List.map_cons)
    rw [printFrom_of_next_eq_some o source hnext hreport.symm, printFrom_eq o source hrest.symm]
    simp only [List.map_cons, String.join_cons, String.append_assoc]
termination_by s.rest.length

/-! ## All tokens -/

/-- The tokens that are printed are those that are asked for. -/
theorem join_tokenLine (o : Options) (ts : List Token) :
    String.join (ts.map (tokenLine o)) = unlines ((ts.filter (asksFor o.only)).map Token.text) := by
  induction ts with
  | nil => rfl
  | cons t ts ih =>
    have hline : tokenLine o t = if asksFor o.only t then t.text ++ "\n" else "" := rfl
    rw [List.map_cons, String.join_cons, ih, hline]
    by_cases hasked : asksFor o.only t = true
    · rw [if_pos hasked, List.filter_cons_of_pos hasked, List.map_cons, unlines_cons]
    · rw [if_neg hasked, List.filter_cons_of_neg hasked, String.empty_append]

/-- Where reports are asked for and all can be drawn, those that are printed are the reports of the
errors, one of each. -/
theorem exists_tokenReport_eq {o : Options} {source : Source} {ts : List Token}
    (ho : o.has .diagnostics = true)
    (h : ∀ t ∈ ts, ∀ d, t.diagnostic? = some d → ∃ report, d.report source = .ok report) :
    ∃ reports printed, (ts.filter Token.isError).Forall₂ (Token.HasReport source) reports ∧
      ts.map (tokenReport o source) = printed.map .ok ∧
      String.join printed = String.join (reports.map yellow) := by
  induction ts with
  | nil => exact ⟨[], [], .nil, rfl, rfl⟩
  | cons t ts ih =>
    obtain ⟨reports, printed, hreports, hprinted, hjoin⟩ := ih fun u hu => h u (.tail _ hu)
    cases hd : t.diagnostic? with
    | none =>
      have herror : ¬ t.isError = true := by rw [← t.isSome_diagnostic?, hd]; simp
      have hnone : tokenReport o source t = .ok "" := by rw [tokenReport, hd]
      rw [List.filter_cons_of_neg herror]
      exact ⟨reports, "" :: printed, hreports, by simp [hnone, hprinted], by simp [hjoin]⟩
    | some d =>
      obtain ⟨report, hreport⟩ := h t (.head _) d hd
      have herror : t.isError = true := by rw [← t.isSome_diagnostic?, hd]; rfl
      have hsome : tokenReport o source t = .ok (yellow report) := by
        rw [tokenReport, hd]
        dsimp only
        rw [if_pos ho, hreport]
        rfl
      rw [List.filter_cons_of_pos herror]
      exact ⟨report :: reports, yellow report :: printed, .cons ⟨d, hd, hreport⟩ hreports,
        by simp [hsome, hprinted], by simp [hjoin]⟩

/-- Where no reports are asked for, no token has one. -/
theorem tokenReport_of_not {o : Options} (ho : o.has .diagnostics = false) (source : Source)
    (t : Token) : tokenReport o source t = .ok "" := by
  rw [tokenReport, ho]
  split <;> rfl

/-- Nothing is printed by printing nothing so many times. -/
theorem join_map_empty {α : Type} (xs : List α) : String.join (xs.map fun _ => "") = "" := by
  induction xs with
  | nil => rfl
  | cons x xs ih => rw [List.map_cons, String.join_cons, ih]; rfl

/-- The reports that a run prints about a source. -/
def Reports (o : Options) (source : Source) (errors : String) : Prop :=
  if o.has .diagnostics then
    ∃ reports, ((tokenize source.text).1.filter Token.isError).Forall₂ (Token.HasReport source)
        reports ∧
      errors = String.join (reports.map yellow)
  else errors = ""

/-- What a batch run comes to, if the reports that are asked for can be drawn. -/
theorem batch_eq {o : Options} {source : Source}
    (h : o.has .diagnostics = true → source.InReach) :
    ∃ errors, Reports o source errors ∧
      batch o source =
        ⟨0, unlines (tokenLines o.only source.text) ++
            (if o.has .table then (tokenize source.text).2.listing else ""), errors⟩ := by
  have hlines := join_tokenLine o (tokenize source.text).1
  unfold Reports
  cases ho : o.has .diagnostics with
  | true =>
    obtain ⟨reports, printed, hreports, hprinted, hjoin⟩ :=
      exists_tokenReport_eq ho fun t ht d hd => (h ho).exists_report ht hd
    refine ⟨String.join (reports.map yellow), ?_, ?_⟩
    · exact ⟨reports, hreports, rfl⟩
    · rw [tokenLines, ← hlines, ← hjoin]
      exact printFrom_eq o source hprinted
  | false =>
    have hnone : (tokenize source.text).1.map (tokenReport o source) =
        ((tokenize source.text).1.map fun _ => "").map Except.ok := by
      rw [List.map_map]
      exact List.map_congr_left fun t _ => tokenReport_of_not ho source t
    have hrun := printFrom_eq o source hnone
    rw [join_map_empty] at hrun
    exact ⟨"", rfl, by rw [tokenLines, ← hlines]; exact hrun⟩

/-! ## The runs -/

/-- The arguments ask for a batch run over a source. -/
structure BatchRun (load : String → Except SourceError Source) (arguments : List String)
    (o : Options) (source : Source) : Prop where
  /-- The arguments give the options. -/
  read : Options.read arguments = .ok o
  /-- The menu is not asked for. -/
  noMenu : o.has .interactive = false
  /-- The source is the text that is given, or else the file that is named. -/
  source : (∃ text, o.eval = some text ∧ source = ⟨"<eval>", text⟩) ∨
    ∃ path, o.eval = none ∧ o.file = some path ∧ load path = .ok source

/-- Such a run reads no input and comes to what the batch run over the source does. -/
theorem BatchRun.run_eq {load : String → Except SourceError Source} {arguments : List String}
    {o : Options} {source : Source} (h : BatchRun load arguments o source) (input : Input) :
    run load arguments input = batch o source := by
  have hscan : scan o source = .done (batch o source) := by
    rw [scan, h.noMenu]
    rfl
  have hstart : startWith load o = .done (batch o source) := by
    rw [← hscan]
    obtain ⟨text, heval, rfl⟩ | ⟨path, heval, hfile, hload⟩ := h.source
    · rw [startWith, heval]
    · rw [startWith, heval, hfile]
      dsimp only
      rw [hload]
  rw [run, start, h.read]
  dsimp only
  rw [hstart]
  rfl

/-- Any valid options with a text and without the menu can be had in a batch run. -/
theorem BatchRun.of_isValid (load : String → Except SourceError Source) {o : Options}
    {text : String} (h : o.IsValid) (hmenu : o.has .interactive = false)
    (heval : o.eval = some text) :
    BatchRun load o.arguments o ⟨"<eval>", text⟩ :=
  ⟨Options.read_arguments h, hmenu, .inl ⟨text, heval, rfl⟩⟩

/-- The reports of errors are the same in all runs. -/
theorem Reports.unique {o o' : Options} {source : Source} {errors errors' : String}
    (ho : o'.has .diagnostics = o.has .diagnostics) (h : Reports o source errors)
    (h' : Reports o' source errors') : errors' = errors := by
  unfold Reports at h h'
  rw [ho] at h'
  split at h
  case isTrue hasked =>
    rw [if_pos hasked] at h'
    obtain ⟨reports, hreports, rfl⟩ := h
    obtain ⟨reports', hreports', rfl⟩ := h'
    rw [Token.HasReport.rightUnique.forall₂ hreports' hreports]
  case isFalse hasked =>
    rw [if_neg hasked] at h'
    rw [h, h']

/-- A batch run prints the tokens of the source that are asked for, in order and one on each line,
and then the whole symbol table if that is asked for. It reports all errors, in order and each once
and in yellow, if reports are asked for, and nothing else. So a run that asks for the same kinds and
for the table or not prints the same lines, whether reports are asked for or not; a run that asks
for reports or not gives the same reports, whatever else is asked for; and the lines of some kinds
are among the lines of all, in the same order. -/
theorem run_batch {load : String → Except SourceError Source} {arguments : List String}
    {o : Options} {source : Source} (hrun : BatchRun load arguments o source)
    (hreach : o.has .diagnostics = true → source.InReach) (input : Input) :
    let outcome := run load arguments input
    outcome.code = 0 ∧
    outcome.output = unlines (tokenLines o.only source.text) ++
      (if o.has .table then "\nSymbol Table:\n" ++ (tokenize source.text).2.text else "") ∧
    (o.has .diagnostics = true → ∃ reports,
      ((tokenize source.text).1.filter Token.isError).Forall₂ (Token.HasReport source) reports ∧
        outcome.errors =
          String.join (reports.map fun report => "\x1b[33m" ++ report ++ "\x1b[39m")) ∧
    (o.has .diagnostics = false → outcome.errors = "") ∧
    (tokenLines o.only source.text).Sublist (tokenLines [] source.text) ∧
    ∀ arguments' o' input', BatchRun load arguments' o' source →
      (o'.has .diagnostics = true → source.InReach) →
      let outcome' := run load arguments' input'
      (o'.only = o.only → o'.has .table = o.has .table → outcome'.output = outcome.output) ∧
      (o'.has .diagnostics = o.has .diagnostics → outcome'.errors = outcome.errors) := by
  intro outcome
  obtain ⟨errors, herrors, hbatch⟩ := batch_eq hreach
  have houtcome : outcome = ⟨0, _, errors⟩ := (hrun.run_eq input).trans hbatch
  rw [houtcome]
  refine ⟨rfl, rfl, ?asked, ?unasked, ?sublist, ?others⟩
  case asked =>
    intro ho
    rwa [Reports, if_pos ho] at herrors
  case unasked =>
    intro ho
    rwa [Reports, ho, if_neg Bool.false_ne_true] at herrors
  case sublist =>
    have hall : tokenLines [] source.text = (tokenize source.text).1.map Token.text := by
      have hkept : (tokenize source.text).1.filter (asksFor []) = (tokenize source.text).1 :=
        List.filter_eq_self.2 fun _ _ => rfl
      rw [tokenLines, hkept]
    rw [hall]
    exact (List.filter_sublist).map _
  case others =>
    intro arguments' o' input' hrun' hreach'
    obtain ⟨errors', herrors', hbatch'⟩ := batch_eq hreach'
    rw [hrun'.run_eq input', hbatch']
    refine ⟨fun honly htable => ?_, fun ho => Reports.unique ho herrors herrors'⟩
    rw [honly, htable]

/-- Runs that ask for names and errors, with the table and all reports, and without reports. -/
theorem run_batch_names_errors :
    let load : String → Except SourceError Source := fun path => .error (.notText path)
    let source : Source := ⟨"<eval>", "x && 9a\n y @"⟩
    let o : Options :=
      { eval := some source.text, only := [.error, .identifier], flags := [.table, .diagnostics] }
    let o' : Options :=
      { eval := some source.text, only := [.error, .identifier], flags := [.table] }
    BatchRun load o.arguments o source ∧ BatchRun load o'.arguments o' source ∧ source.InReach ∧
      (run load o.arguments "").code = 0 ∧
      (run load o.arguments "").output =
        "<ID, 0>\n<ERROR, \"9a\">\n<ID, 1>\n<ERROR, \"@\">\n\nSymbol Table:\n0: x\n1: y\n" ∧
      (run load o.arguments "").errors =
        "\x1b[33mError: MalformedNumber (`9a` starts with digits but continues with letters)\n" ++
          "-> <eval>\n  |\n1 | x && 9a\n  | -----^\n\x1b[39m" ++
          "\x1b[33mError: UnrecognisedSymbol\n-> <eval>\n  |\n2 | y @\n  | --^\n\x1b[39m" ∧
      (run load o'.arguments "").output = (run load o.arguments "").output ∧
      (run load o'.arguments "").errors = "" := by
  intro load source o o'
  have hvalid : o.IsValid := ⟨⟨by decide, by decide⟩, by decide⟩
  have hvalid' : o'.IsValid := ⟨⟨by decide, by decide⟩, by decide⟩
  have hrun := BatchRun.of_isValid load hvalid rfl rfl
  have hrun' := BatchRun.of_isValid load hvalid' rfl rfl
  have hreach : source.InReach := by
    unfold Source.InReach
    decide +kernel
  obtain ⟨hcode, houtput, hreported, -, -, hothers⟩ := run_batch hrun (fun _ => hreach) ""
  have hprinted : unlines (tokenLines o.only source.text) ++
      (if o.has .table then "\nSymbol Table:\n" ++ (tokenize source.text).2.text else "") =
      "<ID, 0>\n<ERROR, \"9a\">\n<ID, 1>\n<ERROR, \"@\">\n\nSymbol Table:\n0: x\n1: y\n" := by
    decide +kernel
  have herrors : (tokenize source.text).1.filter Token.isError =
      [⟨.error "9a" .malformedNumber, ⟨5, 7⟩⟩, ⟨.error "@" .unrecognisedSymbol, ⟨11, 12⟩⟩] := by
    decide +kernel
  obtain ⟨reports, hreports, hjoin⟩ := hreported rfl
  rw [herrors] at hreports
  have hnumber : (Diagnostic.mk .malformedNumber "9a" 5).report source =
      .ok ("Error: MalformedNumber (`9a` starts with digits but continues with letters)\n" ++
        "-> <eval>\n  |\n1 | x && 9a\n  | -----^\n") := by
    decide +kernel
  have hsymbol : (Diagnostic.mk .unrecognisedSymbol "@" 11).report source =
      .ok "Error: UnrecognisedSymbol\n-> <eval>\n  |\n2 | y @\n  | --^\n" := by
    decide +kernel
  have hdrawn := Token.HasReport.rightUnique.forall₂ hreports
    (.cons ⟨_, rfl, hnumber⟩ (.cons ⟨_, rfl, hsymbol⟩ .nil))
  refine ⟨hrun, hrun', hreach, hcode, houtput.trans hprinted, ?_,
    (hothers _ _ "" hrun' fun _ => hreach).1 rfl rfl, ?_⟩
  · rw [hjoin, hdrawn]
    decide +kernel
  · exact (run_batch hrun' (fun _ => hreach) "").2.2.2.1 rfl

end CommandLine

end LogicLexer
