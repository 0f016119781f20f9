import LogicLexer.Scanner
import LogicLexer.Source.Failure

/-!
# Sources

A source is a text and the name under which reports speak of it. It comes from a file, whose bytes
must be UTF-8, or is given directly. All bytes count, a byte order mark among them.
-/

namespace LogicLexer

/-- A text to scan, and its name. -/
structure Source where
  /-- The name that reports show. -/
  name : String
  /-- The text. -/
  text : String
deriving DecidableEq

namespace Source

/-- A scanner at the start of the source. -/
def scanner (s : Source) : Scanner :=
  .ofText s.text

/-- The source of a file that was asked for under a path, from what reading the file gave. -/
def ofRead (path : String) : Except ReadFailure ByteArray → Except SourceError Source
  | .error failure => .error (.ofFailure path failure)
  | .ok bytes =>
    match String.fromUTF8? bytes with
    | some text => .ok ⟨path, text⟩
    | none => .error (.notText path)

end Source

end LogicLexer
