import LogicLexer.Proofs.CommandLine.Output
import LogicLexer.Proofs.Session.Pass

/-!
# Sources from files

A run over a file that holds a text is the run over the text given directly, except that reports
show another name. The name of a source has no other part in a run: of two sources of the same
text, every choice of a menu gets the same answer (`Session.Agree.handle`), and every report differs
in its second line only (`Diagnostic.report_eq`), if it can be drawn at all. Both carry over to
whole runs, by induction on what asking for lines comes to (`interact_eq`) and on the tokens that
are left (`printFrom_agreeBut`). Nothing is said about how lines are asked for, and whether they can
be read: the same input ends both runs in the same way, as a line does that cannot be read
(`interact_append_failed`).

A file without a text ends the run before anything is printed. So `run_file` says all there is to
say about what a file holds and how reading it may fail.
-/

namespace LogicLexer

open Text

/-! ## Bytes -/

/-- A text is read back from its bytes. -/
theorem fromUTF8?_toUTF8 (text : String) : String.fromUTF8? text.toUTF8 = some text :=
  dif_pos text.isValidUTF8

/-- What is read from bytes has these bytes. -/
theorem toUTF8_of_fromUTF8? {bytes : ByteArray} {text : String}
    (h : String.fromUTF8? bytes = some text) : bytes = text.toUTF8 := by
  unfold String.fromUTF8? at h
  split at h
  · obtain rfl := Option.some.inj h
    rfl
  · cases h

/-- Why reading a file gives no text: the bytes are not UTF-8, or this is what the failure says. -/
def IsInvalidData : Except ReadFailure ByteArray → Prop
  | .ok bytes => ∀ text : String, bytes ≠ text.toUTF8
  | .error failure => ∃ reason, failure = .invalidData reason

/-- The source of a file that holds a text. -/
theorem Source.ofRead_of_text (path text : String) :
    ofRead path (.ok text.toUTF8) = .ok ⟨path, text⟩ := by
  unfold ofRead
  dsimp only
  rw [fromUTF8?_toUTF8]

/-- A file that holds no text is not text if its bytes or the failure over them are invalid, and
is not to be had otherwise. -/
theorem Source.ofRead_cases (path : String) {result : Except ReadFailure ByteArray}
    (h : ∀ text : String, result ≠ .ok text.toUTF8) :
    IsInvalidData result ∧ ofRead path result = .error (.notText path) ∨
      ¬ IsInvalidData result ∧ ∃ failure, result = .error failure ∧
        ofRead path result = .error (.unavailable path failure) := by
  cases result with
  | ok bytes =>
    have hinvalid : ∀ text : String, bytes ≠ text.toUTF8 := fun text heq =>
      h text (congrArg Except.ok heq)
    refine .inl ⟨hinvalid, ?_⟩
    unfold ofRead
    dsimp only
    cases hbytes : String.fromUTF8? bytes with
    | none => rfl
    | some text => exact absurd (toUTF8_of_fromUTF8? hbytes) (hinvalid text)
  | error failure =>
    cases failure with
    | invalidData reason => exact .inl ⟨⟨reason, rfl⟩, rfl⟩
    | _ =>
      refine .inr ⟨?_, _, rfl, rfl⟩
      rintro ⟨reason, h⟩
      cases h

/-- The two messages about a file differ. -/
theorem SourceError.message_ne (path : String) (failure : ReadFailure) :
    (notText path).message ≠ (unavailable path failure).message := by
  intro h
  have hlist := congrArg String.toList h
  simp only [message, String.toList_append, List.append_assoc] at hlist
  have hrest := List.append_cancel_left (List.append_cancel_left hlist)
  exact absurd hrest (by simp)

/-! ## Menus -/

/-- Two sessions are at the same place of the same text. -/
structure Session.Agree (s s' : Session) : Prop where
  /-- They have the same text. -/
  text : s.source.text = s'.source.text
  /-- They are at the same place. -/
  scanner : s.scanner = s'.scanner

/-- Sources of the same text have sessions that start at the same place. -/
theorem Session.agree_ofSource {source source' : Source} (h : source.text = source'.text) :
    (ofSource source).Agree (ofSource source') :=
  ⟨h, congrArg Scanner.ofText h⟩

/-- An input to sessions that agree gets the same answer, and they agree afterwards. -/
theorem Session.Agree.handle {s s' : Session} (h : s.Agree s') (input : String) :
    (s.handle input).output = (s'.handle input).output ∧
      (s.handle input).flow = (s'.handle input).flow ∧
      (s.handle input).session.Agree (s'.handle input).session := by
  obtain ⟨source, scanner⟩ := s
  obtain ⟨source', scanner'⟩ := s'
  obtain ⟨htext, rfl⟩ : source.text = source'.text ∧ scanner = scanner' := ⟨h.text, h.scanner⟩
  unfold Session.handle
  split
  -- Only the first choice does anything to the session.
  case h_1 =>
    unfold Session.nextToken
    rcases scanner.next with ⟨_ | t, behind⟩
    · exact ⟨rfl, rfl, agree_ofSource htext⟩
    · exact ⟨rfl, rfl, htext, rfl⟩
  all_goals exact ⟨rfl, rfl, h⟩

namespace CommandLine

/-- Sessions that agree come to the same, whatever asking for lines comes to. -/
theorem interact_eq {s s' : Session} (h : s.Agree s') (readings : List Reading) :
    interact s readings = interact s' readings := by
  induction readings generalizing s s' with
  | nil => rfl
  | cons reading rest ih =>
    cases reading with
    | line input =>
      obtain ⟨houtput, hflow, hagree⟩ := h.handle input
      unfold interact
      dsimp only
      rw [houtput, hflow]
      cases (s'.handle input).flow with
      | exit => rfl
      | goOn =>
        dsimp only
        rw [ih hagree]
    | ended => rfl
    | failed report => rfl
    | broken report => rfl

/-- What is printed while lines are answered: the menu and the answer for each. -/
def answers (s : Session) : List String → String
  | [] => ""
  | line :: rest => Session.menu ++ (s.handle line).output ++ answers (s.handle line).session rest

/-- Lines that do not leave the menu are answered one after the other, and the session goes on. -/
theorem interact_append {lines : List String}
    (h : ∀ line ∈ lines, MenuChoice.parse? line ≠ some .exit) (s : Session)
    (readings : List Reading) :
    interact s (lines.map .line ++ readings) =
      ⟨(interact (s.after lines) readings).code,
        answers s lines ++ (interact (s.after lines) readings).output,
        (interact (s.after lines) readings).errors⟩ := by
  induction lines generalizing s with
  | nil => simp [answers, Session.after]
  | cons line lines ih =>
    obtain ⟨hline, hlines⟩ := List.forall_mem_cons.1 h
    rw [List.map_cons, List.cons_append, interact]
    dsimp only
    rw [Session.flow_handle_of_ne hline, ih hlines]
    simp only [answers, Session.after, List.foldl_cons, String.append_assoc]

/-- A line that cannot be read ends the session with an error, whatever stands behind it. -/
theorem interact_append_failed {lines : List String}
    (h : ∀ line ∈ lines, MenuChoice.parse? line ≠ some .exit) (s : Session) (report : String)
    (readings : List Reading) :
    interact s (lines.map .line ++ .failed report :: readings) =
      ⟨1, answers s lines ++ Session.menu, failure report⟩ :=
  interact_append h s _

end CommandLine

/-! ## Reports -/

/-- The first line of a report. -/
def Diagnostic.title (d : Diagnostic) : String :=
  "Error: " ++ d.issue.name ++ d.tip?.elim "" fun tip => " (" ++ tip ++ ")"

/-- A report with the given first line and last rows, under the name of a source. -/
def Report.underName (name : String) (parts : String × String) : String :=
  parts.1 ++ "\n-> " ++ name ++ "\n" ++ parts.2

/-- The name of a source has a part in the second line of a report only. -/
theorem Diagnostic.report_eq (d : Diagnostic) (text : String) :
    (∃ failure, ∀ name, d.report ⟨name, text⟩ = .error failure) ∨
      ∃ rows, ∀ name, d.report ⟨name, text⟩ = .ok (Report.underName name (d.title, rows)) := by
  have hheader : ∀ name, Report.header d ⟨name, text⟩ = d.title ++ "\n-> " ++ name ++ "\n" :=
    fun name => Report.header_eq d ⟨name, text⟩
  -- The place and the width of the caret are those of the text alone.
  cases hplace : Place.at? text d.position with
  | none =>
    refine .inr ⟨"", fun name => ?_⟩
    simp only [report, hplace, hheader, Report.underName, String.append_empty]
  | some place =>
    cases hwidth : Report.caretWidth place with
    | error failure => exact .inl ⟨failure, fun name => by simp only [report, hplace, hwidth]⟩
    | ok width =>
      refine .inr ⟨Report.rows place width, fun name => ?_⟩
      simp only [report, hplace, hwidth, hheader, Report.underName]

/-- The first line of a report is one line. -/
theorem Diagnostic.lineFeed_notMem_title {t : Token} {d : Diagnostic} (ht : t.value.IsRead)
    (hd : t.diagnostic? = some d) : '\n' ∉ d.title.toList := by
  obtain ⟨value, span⟩ := t
  cases value with
  | error lexeme issue =>
    obtain rfl := Option.some.inj hd
    have hlexeme := ht.lineFeed_notMem_lexeme
    cases issue <;>
      simp [title, tip?, Issue.name, hlexeme]
  | _ => cases hd

namespace CommandLine

/-- Two texts are the same reports and perhaps a message behind them, but for the name under which
the reports are. -/
def SameButName (name name' errors errors' : String) : Prop :=
  ∃ (reports : List (String × String)) (message : String), (∀ r ∈ reports, '\n' ∉ r.1.toList) ∧
    errors = String.join (reports.map (yellow ∘ Report.underName name)) ++ message ∧
    errors' = String.join (reports.map (yellow ∘ Report.underName name')) ++ message

/-- Texts without reports are the same. -/
theorem SameButName.refl (name name' message : String) : SameButName name name' message message :=
  ⟨[], message, by simp, by simp, by simp⟩

/-- A report more keeps texts the same. -/
theorem SameButName.cons {name name' errors errors' : String} {parts : String × String}
    (hparts : '\n' ∉ parts.1.toList) (h : SameButName name name' errors errors') :
    SameButName name name' (yellow (Report.underName name parts) ++ errors)
      (yellow (Report.underName name' parts) ++ errors') := by
  obtain ⟨reports, message, hreports, rfl, rfl⟩ := h
  refine ⟨parts :: reports, message, List.forall_mem_cons.2 ⟨hparts, hreports⟩, ?_, ?_⟩
  · rw [List.map_cons, String.join_cons, String.append_assoc]
    rfl
  · rw [List.map_cons, String.join_cons, String.append_assoc]
    rfl

/-- What two runs come to, if only the name of the source in their reports is another. -/
structure Outcome.AgreeBut (name name' : String) (outcome outcome' : Outcome) : Prop where
  /-- They have the same exit code. -/
  code : outcome.code = outcome'.code
  /-- They print the same. -/
  output : outcome.output = outcome'.output
  /-- They report the same under another name. -/
  errors : SameButName name name' outcome.errors outcome'.errors

/-- Runs that come to the same. -/
theorem Outcome.AgreeBut.refl (name name' : String) (outcome : Outcome) :
    AgreeBut name name' outcome outcome :=
  ⟨rfl, rfl, .refl name name' _⟩

/-- A token has no report, or one that cannot be drawn, or one under each name. -/
theorem tokenReport_cases (o : Options) (text : String) {t : Token} (ht : t.value.IsRead) :
    (∀ name, tokenReport o ⟨name, text⟩ t = .ok "") ∨
      (∃ failure, ∀ name, tokenReport o ⟨name, text⟩ t = .error failure) ∨
      ∃ parts : String × String, '\n' ∉ parts.1.toList ∧
        ∀ name, tokenReport o ⟨name, text⟩ t = .ok (yellow (Report.underName name parts)) := by
  unfold tokenReport
  cases hd : t.diagnostic? with
  | none => exact .inl fun _ => rfl
  | some d =>
    dsimp only
    cases o.has .diagnostics with
    | false => exact .inl fun _ => rfl
    | true =>
      right
      rcases d.report_eq text with ⟨failure, hreport⟩ | ⟨rows, hreport⟩
      · exact .inl ⟨failure, fun name => by rw [hreport]; rfl⟩
      · refine .inr ⟨(d.title, rows), Diagnostic.lineFeed_notMem_title ht hd, fun name => ?_⟩
        rw [hreport]
        rfl

/-- A run prints the same from a scanner's place on, whatever the name of the source. -/
theorem printFrom_agreeBut {o o' : Options} (hflags : o.flags = o'.flags) (honly : o.only = o'.only)
    (name name' text : String) (s : Scanner) :
    (printFrom o ⟨name, text⟩ s).AgreeBut name name' (printFrom o' ⟨name', text⟩ s) := by
  -- Flags and kinds are all that a run looks at in its options.
  have hhas : o.has = o'.has := funext fun flag => by rw [Options.has, hflags]; rfl
  have hline : ∀ t, tokenLine o t = tokenLine o' t := fun t => by rw [tokenLine, honly]; rfl
  have hreports : ∀ name t, tokenReport o ⟨name, text⟩ t = tokenReport o' ⟨name, text⟩ t :=
    fun name t => by rw [tokenReport, hhas]; rfl
  -- By the recursion of the run: each token leaves less text.
  rcases hnext : s.next with ⟨_ | t, s'⟩
  · -- Behind the last token stands the table, which is the same.
    rw [printFrom_of_next_eq_none o _ hnext, printFrom_of_next_eq_none o' _ hnext, hhas]
    exact .refl name name' _
  · have hless := Scanner.length_rest_next_lt hnext
    have ih := printFrom_agreeBut hflags honly name name' text s'
    have hreport' := fun name => (hreports name t).symm
    rcases tokenReport_cases o text (Scanner.isRead_of_next_eq_some hnext) with
      hnone | ⟨failure, hfailure⟩ | ⟨parts, htitle, hparts⟩
    · rw [printFrom_of_next_eq_some o _ hnext (hnone name),
        printFrom_of_next_eq_some o' _ hnext ((hreport' name').trans (hnone name'))]
      refine ⟨ih.code, ?_, ?_⟩
      · show tokenLine o t ++ _ = tokenLine o' t ++ _
        rw [hline, ih.output]
      · show SameButName name name' ("" ++ _) ("" ++ _)
        rw [String.empty_append, String.empty_append]
        exact ih.errors
    · rw [printFrom_of_tokenReport_eq_error o _ hnext (hfailure name),
        printFrom_of_tokenReport_eq_error o' _ hnext ((hreport' name').trans (hfailure name'))]
      exact ⟨rfl, hline t, .refl name name' _⟩
    · rw [printFrom_of_next_eq_some o _ hnext (hparts name),
        printFrom_of_next_eq_some o' _ hnext ((hreport' name').trans (hparts name'))]
      refine ⟨ih.code, ?_, ih.errors.cons htitle⟩
      show tokenLine o t ++ _ = tokenLine o' t ++ _
      rw [hline, ih.output]
termination_by s.rest.length

/-- A batch run prints the same, whatever the name of the source. -/
theorem batch_agreeBut {o o' : Options} (hflags : o.flags = o'.flags) (honly : o.only = o'.only)
    (name name' text : String) :
    (batch o ⟨name, text⟩).AgreeBut name name' (batch o' ⟨name', text⟩) :=
  printFrom_agreeBut hflags honly name name' text (.ofText text)

/-! ## Runs -/

/-- What a run over a source comes to. -/
def runOver (o : Options) (source : Source) (input : Input) : Outcome :=
  (scan o source).finish input

/-- What a run over a source comes to does not depend on its name. -/
theorem runOver_agreeBut {o o' : Options} (hflags : o.flags = o'.flags) (honly : o.only = o'.only)
    (name name' text : String) (input : Input) :
    (runOver o ⟨name, text⟩ input).AgreeBut name name' (runOver o' ⟨name', text⟩ input) := by
  have hmenu : o.has .interactive = o'.has .interactive := by rw [Options.has, hflags]; rfl
  unfold runOver scan
  rw [hmenu]
  cases o'.has .interactive with
  | true =>
    have hagree := @Session.agree_ofSource ⟨name, text⟩ ⟨name', text⟩ rfl
    cases input with
    | closed report => exact .refl name name' _
    | readings readings =>
      show (interact _ readings).AgreeBut name name' (interact _ readings)
      rw [interact_eq hagree]
      exact .refl name name' _
  | false => exact batch_agreeBut hflags honly name name' text

/-- The line that is printed when there is no source. -/
def errorLine (e : SourceError) : String :=
  boldRed "Error" ++ ": " ++ e.message ++ "\n"

/-- The lines about a file differ. -/
theorem errorLine_ne (path : String) (failure : ReadFailure) :
    errorLine (.unavailable path failure) ≠ errorLine (.notText path) := by
  intro h
  have hlist := congrArg String.toList h
  simp only [errorLine, String.toList_append] at hlist
  have hmessage := List.append_cancel_left (List.append_cancel_right hlist)
  exact SourceError.message_ne path failure (String.toList_inj.1 hmessage).symm

/-- A run over a file is a run over its source, or ends with an error. -/
theorem run_of_file {load : String → Except SourceError Source} {arguments : List String}
    {o : Options} {path : String} (hread : Options.read arguments = .ok o)
    (hfile : o.file = some path) (input : Input) :
    run load arguments input =
      match load path with
      | .ok source => runOver o source input
      | .error e => ⟨1, "", errorLine e⟩ := by
  -- A file and a text are never given together.
  have heval : o.eval = none := by
    have hvalid := Options.isValid_of_read hread
    exact hvalid.file_or_eval.resolve_left (by simp [hfile])
  unfold run start
  rw [hread]
  dsimp only
  unfold startWith
  rw [heval, hfile]
  dsimp only
  cases load path with
  | ok source => rfl
  | error e => rfl

/-- A run over a text is a run over its source. -/
theorem run_of_eval (load : String → Except SourceError Source) {arguments : List String}
    {o : Options} {text : String} (hread : Options.read arguments = .ok o)
    (heval : o.eval = some text) (input : Input) :
    run load arguments input = runOver o ⟨"<eval>", text⟩ input := by
  unfold run start
  rw [hread]
  dsimp only
  unfold startWith
  rw [heval]
  rfl

/-- A run over a file that holds a text prints what the run with the same options over the text
itself does, and reports the same under the path of the file, whatever the input is and whether its
lines can be read. If the file holds no text, or cannot be read, nothing is printed but an error. It
says that the file is not text exactly if the bytes, or the failure over them, are invalid;
otherwise it tells the failure. -/
theorem run_file {read : String → Except ReadFailure ByteArray} {arguments : List String}
    {o : Options} {path : String} (hread : Options.read arguments = .ok o)
    (hfile : o.file = some path) (input : Input) :
    let load := fun path => Source.ofRead path (read path)
    let outcome := run load arguments input
    (∀ text, read path = .ok text.toUTF8 → ∀ arguments',
      Options.read arguments' = .ok { o with file := none, eval := some text } →
        outcome.AgreeBut path "<eval>" (run load arguments' input)) ∧
    ((∀ text : String, read path ≠ .ok text.toUTF8) →
      outcome.code = 1 ∧ outcome.output = "" ∧
      (outcome.errors = errorLine (.notText path) ↔ IsInvalidData (read path)) ∧
      (¬ IsInvalidData (read path) → ∃ failure, read path = .error failure ∧
        outcome.errors = errorLine (.unavailable path failure))) := by
  intro load outcome
  have houtcome : outcome = _ := run_of_file hread hfile input
  constructor
  · intro text htext arguments' hread'
    have hload : load path = .ok ⟨path, text⟩ := by
      show Source.ofRead path (read path) = _
      rw [htext, Source.ofRead_of_text]
    rw [hload] at houtcome
    rw [houtcome, run_of_eval load hread' rfl]
    exact @runOver_agreeBut o { o with file := none, eval := some text } rfl rfl path "<eval>" text
      input
  · intro hnone
    rcases Source.ofRead_cases path hnone with
      ⟨hinvalid, hload⟩ | ⟨hvalid, failure, hfailure, hload⟩
    · have hload : load path = .error (.notText path) := hload
      have houtcome : outcome = ⟨1, "", errorLine (.notText path)⟩ := by rw [houtcome, hload]
      rw [houtcome]
      exact ⟨rfl, rfl, iff_of_true rfl hinvalid, fun h => absurd hinvalid h⟩
    · have hload : load path = .error (.unavailable path failure) := hload
      have houtcome : outcome = ⟨1, "", errorLine (.unavailable path failure)⟩ := by
        rw [houtcome, hload]
      rw [houtcome]
      exact ⟨rfl, rfl, iff_of_false (errorLine_ne path failure) hvalid,
        fun _ => ⟨failure, hfailure, rfl⟩⟩

/-- Runs over a file and over its text, with reports and with a menu whose second line is not UTF-8,
and a run over a file that is missing. -/
theorem run_file_reports :
    let read : String → Except ReadFailure ByteArray := fun path =>
      if path = "in.txt" then .ok "x 34RR".toUTF8 else .error .notFound
    let load := fun path => Source.ofRead path (read path)
    let o : Options := { file := some "in.txt", flags := [.diagnostics] }
    let o' : Options := { eval := some "x 34RR", flags := [.diagnostics] }
    let menu : Options := { file := some "in.txt", flags := [.interactive] }
    let menu' : Options := { eval := some "x 34RR", flags := [.interactive] }
    let missing : Options := { file := some "out.txt", flags := [.diagnostics] }
    let typed : Input := .ofBytes ⟨#[0x31, 0x0A, 0xFF, 0x0A, 0x33, 0x0A]⟩
    Options.read o.arguments = .ok o ∧ Options.read o'.arguments = .ok o' ∧
      Options.read menu.arguments = .ok menu ∧ Options.read menu'.arguments = .ok menu' ∧
      Options.read missing.arguments = .ok missing ∧
      (run load o.arguments "").AgreeBut "in.txt" "<eval>" (run load o'.arguments "") ∧
      (run load menu.arguments typed).AgreeBut "in.txt" "<eval>" (run load menu'.arguments typed) ∧
      run load menu.arguments typed =
        ⟨1, Session.menu ++ "<ID, 0>\n" ++ Session.menu,
          "Error: stream did not contain valid UTF-8\n\n" ++
            "Caused by:\n    stream did not contain valid UTF-8\n"⟩ ∧
      (run load missing.arguments "").code = 1 ∧ (run load missing.arguments "").output = "" ∧
      (run load missing.arguments "").errors =
        errorLine (.unavailable "out.txt" .notFound) := by
  intro read load o o' menu menu' missing typed
  have hread : Options.read o.arguments = .ok o :=
    Options.read_arguments ⟨⟨by decide, by decide⟩, by decide⟩
  have hread' : Options.read o'.arguments = .ok o' :=
    Options.read_arguments ⟨⟨by decide, by decide⟩, by decide⟩
  have hmenu : Options.read menu.arguments = .ok menu :=
    Options.read_arguments ⟨⟨by decide, by decide⟩, by decide⟩
  have hmenu' : Options.read menu'.arguments = .ok menu' :=
    Options.read_arguments ⟨⟨by decide, by decide⟩, by decide⟩
  have hmissing : Options.read missing.arguments = .ok missing :=
    Options.read_arguments ⟨⟨by decide, by decide⟩, by decide⟩
  obtain ⟨htext, -⟩ := @run_file read _ o "in.txt" hread rfl ""
  obtain ⟨htyped, -⟩ := @run_file read _ menu "in.txt" hmenu rfl typed
  obtain ⟨-, hfailure⟩ := @run_file read _ missing "out.txt" hmissing rfl ""
  -- What is typed is a choice, a line that cannot be read, and one that nobody asks for.
  have hreadings : typed = .readings (["1"].map .line ++ .failed notText :: [.line "3"]) := by
    decide +kernel
  have hsession : run load menu.arguments typed =
      ⟨1, answers (.ofSource ⟨"in.txt", "x 34RR"⟩) ["1"] ++ Session.menu, failure notText⟩ := by
    have hchoice : MenuChoice.parse? "1" ≠ some .exit := by decide +kernel
    have hload : load "in.txt" = .ok ⟨"in.txt", "x 34RR"⟩ := Source.ofRead_of_text _ _
    rw [run_of_file hmenu rfl, hload, hreadings]
    exact interact_append_failed (List.forall_mem_singleton.2 hchoice)
      (.ofSource ⟨"in.txt", "x 34RR"⟩) notText [.line "3"]
  have hanswers : answers (.ofSource ⟨"in.txt", "x 34RR"⟩) ["1"] =
      Session.menu ++ "<ID, 0>\n" := by
    decide +kernel
  have hother : read "out.txt" = .error .notFound := rfl
  have hnone : ∀ text : String, read "out.txt" ≠ .ok text.toUTF8 := fun text h => by
    rw [hother] at h
    cases h
  have hvalid : ¬ IsInvalidData (read "out.txt") := by
    rw [hother]
    rintro ⟨reason, h⟩
    cases h
  obtain ⟨hcode, houtput, -, htold⟩ := hfailure hnone
  obtain ⟨failure, hreason, herrors⟩ := htold hvalid
  obtain rfl : ReadFailure.notFound = failure := Except.error.inj (hother.symm.trans hreason)
  refine ⟨hread, hread', hmenu, hmenu', hmissing, htext "x 34RR" rfl _ hread',
    htyped "x 34RR" rfl _ hmenu', ?_, hcode, houtput, herrors⟩
  rw [hsession, hanswers]
  rfl

end CommandLine

end LogicLexer
