import LogicLexer.CommandLine.Input
import LogicLexer.CommandLine.Options
import LogicLexer.Report
import LogicLexer.Session

/-!
# The command line

What a run of the program comes to, given its arguments, its input and a way to load the file that
they name. A batch run prints the tokens of the source, with the reports of its errors and the
symbol table where they are asked for. An interactive run prints what a menu session does, until it
is left or there is no line to read.
-/

namespace LogicLexer.CommandLine

/-- How a run ends and what it has printed. -/
structure Outcome where
  /-- The exit code. -/
  code : Nat
  /-- What stands on the standard output. -/
  output : String
  /-- What stands on the standard error output. -/
  errors : String
deriving DecidableEq

/-- What a run comes to before it reads any input: an end, or a session that goes on from there. -/
inductive Beginning where
  /-- The run is over. -/
  | done (outcome : Outcome)
  /-- The menu is shown. -/
  | menu (session : Session)

/-- What answers a request. -/
def Request.answer : Request → String
  | .version => "lexan 0.1.0\n"
  | .help => "Lexical scanner for identifiers, numbers and logical operators\n\n" ++
      "Usage: lexan [OPTIONS] [FILE]\n\n" ++
      "Arguments:\n" ++
      "  [FILE]  Text file to scan\n\n" ++
      "Options:\n" ++
      "  -e, --eval <EVAL>  Scan text given on the command line instead of a file\n" ++
      "  -i, --interactive  Step through tokens from a menu\n" ++
      "      --only <ONLY>  Only print tokens of these kinds (e.g. ID,ERROR)\n" ++
      "      --table        Print the symbol table after scanning\n" ++
      "      --diagnostics  Report each error token with its location on stderr\n" ++
      "      --verbose      Enable verbose logging\n" ++
      "  -h, --help         Print help\n" ++
      "  -V, --version      Print version\n"

/-- A text in yellow, on terminals that follow the escape sequences. -/
def yellow (text : String) : String :=
  "\x1b[33m" ++ text ++ "\x1b[39m"

/-- A text in bold red. -/
def boldRed (text : String) : String :=
  "\x1b[1m\x1b[31m" ++ text ++ "\x1b[39m\x1b[0m"

/-- What is printed when a report cannot be drawn, which ends the run. -/
def brokenReport : ReportFailure → String
  | .caretBeforeText => "the caret of a report stands before its line\n"
  | .caretTooWide => "the caret of a report is out of reach\n"

/-- The line of a token, if its kind is asked for. -/
def tokenLine (o : Options) (t : Token) : String :=
  if o.only.isEmpty || o.only.contains t.kind then t.text ++ "\n" else ""

/-- The report of a token, if it marks an error and reports are asked for. -/
def tokenReport (o : Options) (source : Source) (t : Token) : Except ReportFailure String :=
  match t.diagnostic? with
  | some d => if o.has .diagnostics then (d.report source).map yellow else .ok ""
  | none => .ok ""

/-- Prints the tokens from a scanner's place on with their reports, and the symbol table behind them
if it is asked for. A report that cannot be drawn ends the run. -/
def printFrom (o : Options) (source : Source) (s : Scanner) : Outcome :=
  match h : s.next with
  | (none, last) => ⟨0, if o.has .table then last.symbols.listing else "", ""⟩
  | (some t, behind) =>
    have := Scanner.length_rest_next_lt h
    match tokenReport o source t with
    | .error failure => ⟨101, tokenLine o t, brokenReport failure⟩
    | .ok report =>
      let rest := printFrom o source behind
      ⟨rest.code, tokenLine o t ++ rest.output, report ++ rest.errors⟩
termination_by s.rest.length

/-- A batch run over a source. -/
def batch (o : Options) (source : Source) : Outcome :=
  printFrom o source source.scanner

/-- What is printed when a run fails. -/
def failure (report : String) : String :=
  "Error: " ++ report ++ "\n"

/-- A menu session over what asking for lines comes to. The menu is printed before each line is
asked for. Nothing is asked for behind the end of the session, be it left or broken off. -/
def interact (s : Session) : List Reading → Outcome
  | [] => ⟨0, Session.menu, ""⟩
  | .ended :: _ => ⟨0, Session.menu, ""⟩
  | .failed report :: _ => ⟨1, Session.menu, failure report⟩
  | .broken report :: _ => ⟨101, Session.menu, report ++ "\n"⟩
  | .line input :: rest =>
    let answer := s.handle input
    match answer.flow with
    | .exit => ⟨0, Session.menu ++ answer.output, ""⟩
    | .goOn =>
      let outcome := interact answer.session rest
      ⟨outcome.code, Session.menu ++ answer.output ++ outcome.output, outcome.errors⟩

/-- How a run begins over a source. -/
def scan (o : Options) (source : Source) : Beginning :=
  if o.has .interactive then .menu (.ofSource source) else .done (batch o source)

/-- How a run with the given options begins. A text that is given directly has the name
`<eval>`. -/
def startWith (load : String → Except SourceError Source) (o : Options) : Beginning :=
  match o.eval, o.file with
  | some text, _ => scan o ⟨"<eval>", text⟩
  | none, some path =>
    match load path with
    | .ok source => scan o source
    | .error e => .done ⟨1, "", boldRed "Error" ++ ": " ++ e.message ++ "\n"⟩
  | none, none => .done ⟨1, "", failure "nothing to scan: pass a FILE or --eval TEXT"⟩

/-- How a run with the given arguments begins. -/
def start (load : String → Except SourceError Source) (arguments : List String) : Beginning :=
  match Options.read arguments with
  | .ok o => startWith load o
  | .error (.request r) => .done ⟨0, r.answer, ""⟩
  | .error (.usage e) => .done ⟨2, "", "error: " ++ e.message ++ "\n"⟩

/-- How a run ends that begins so. -/
def Beginning.finish (input : Input) : Beginning → Outcome
  | .done outcome => outcome
  | .menu session =>
    match input with
    | .closed report => ⟨1, "", failure report⟩
    | .readings readings => interact session readings

/-- What a run comes to. -/
def run (load : String → Except SourceError Source) (arguments : List String) (input : Input) :
    Outcome :=
  (start load arguments).finish input

end LogicLexer.CommandLine
