import LogicLexer.Diagnostic
import LogicLexer.Line
import LogicLexer.Source
import LogicLexer.Text.WhiteSpace

/-!
# Reports

A report shows a diagnostic in its source:

```text
Error: MalformedNumber (`34RR` starts with digits but continues with letters)
-> input.txt
  |
1 | x 45 34RR
  | -----^
```

The line is shown without the blanks at its ends, and the caret stands under the diagnostic's
position. A position that no line holds is left out with the three rows below the name. A report
has two ways to fail: the position may stand among the blanks that are left out, and the row of the
caret must not be wider than `caretLimit`.
-/

namespace LogicLexer

open Text

/-- Why a report cannot be drawn. -/
inductive ReportFailure where
  /-- The position stands before the first character that is shown of its line. -/
  | caretBeforeText
  /-- The caret stands too far to the right. -/
  | caretTooWide
deriving DecidableEq

namespace Report

/-- The greatest width to which dashes and caret can be drawn. -/
def caretLimit : Nat := 65535

/-- The two lines above the source text: the issue with its tip, and the source's name. -/
def header (d : Diagnostic) (source : Source) : String :=
  "Error: " ++ d.issue.name ++
    (match d.tip? with
      | some tip => " (" ++ tip ++ ")"
      | none => "") ++
    "\n-> " ++ source.name ++ "\n"

/-- The bar at the left, behind the space for a line number of the given width. -/
def bar (width : Nat) : String :=
  String.ofList (List.replicate (width + 1) ' ') ++ "|"

/-- The width of the dashes and the caret that lead to a place. -/
def caretWidth (place : Place) : Except ReportFailure Nat :=
  let blanks := (place.content.takeWhile isWhiteSpace).length
  if place.column < blanks then .error .caretBeforeText
  else if caretLimit < place.column - blanks + 1 then .error .caretTooWide
  else .ok (place.column - blanks + 1)

/-- The three rows that show a line and the caret under a place on it. -/
def rows (place : Place) (width : Nat) : String :=
  let number := place.line.repr
  bar number.length ++ "\n" ++
    number ++ " | " ++ String.ofList (trim place.content) ++ "\n" ++
    bar number.length ++ " " ++ String.ofList (List.replicate (width - 1) '-') ++ "^\n"

end Report

/-- The report of a diagnostic in its source. -/
def Diagnostic.report (d : Diagnostic) (source : Source) : Except ReportFailure String :=
  match Place.at? source.text d.position with
  | none => .ok (Report.header d source)
  | some place =>
    match Report.caretWidth place with
    | .error failure => .error failure
    | .ok width => .ok (Report.header d source ++ Report.rows place width)

end LogicLexer
