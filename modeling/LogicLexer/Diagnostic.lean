import LogicLexer.Text.Quoted
import LogicLexer.Token

/-!
# Diagnostics

What is said about a part of the text that is no token: the name of the issue, a tip, and a
message that quotes the text and tells its place.
-/

namespace LogicLexer

namespace Issue

/-- The name by which an issue is reported. -/
def name : Issue → String
  | unrecognisedSymbol => "UnrecognisedSymbol"
  | malformedNumber => "MalformedNumber"
  | integerOverflow => "IntegerOverflow"

/-- What an issue says of the text. -/
def description : Issue → String
  | unrecognisedSymbol => "unrecognised symbol"
  | malformedNumber => "malformed number"
  | integerOverflow => "integer out of range"

end Issue

/-- An issue with a part of the text, and where the part starts. -/
structure Diagnostic where
  /-- What is wrong. -/
  issue : Issue
  /-- The part of the text. -/
  lexeme : String
  /-- The byte offset of its start. -/
  position : Nat
deriving DecidableEq

namespace Diagnostic

/-- A hint at the mistake. An unrecognised symbol has none. -/
def tip? (d : Diagnostic) : Option String :=
  match d.issue with
  | .unrecognisedSymbol => none
  | .malformedNumber =>
    some ("`" ++ d.lexeme ++ "` starts with digits but continues with letters")
  | .integerOverflow =>
    some ("Invalid number: `" ++ d.lexeme ++ "`, is it above the integer limit?")

/-- The diagnostic on one line. -/
def message (d : Diagnostic) : String :=
  d.issue.description ++ ": " ++ Text.quoted d.lexeme ++ " at byte " ++ d.position.repr

end Diagnostic

/-- The diagnostic of a token that marks an error. -/
def Token.diagnostic? (t : Token) : Option Diagnostic :=
  match t.value with
  | .error lexeme issue => some ⟨issue, lexeme, t.span.start⟩
  | _ => none

/-- The tokens that mark errors are those with a diagnostic. -/
theorem Token.isSome_diagnostic? (t : Token) : t.diagnostic?.isSome = t.isError := by
  obtain ⟨value, span⟩ := t
  cases value <;> rfl

end LogicLexer
