import LogicLexer.Number.Decimal
import LogicLexer.Span
import LogicLexer.Token.Kind

/-!
# Tokens

A token is a value and the span of text that it was read from. The value decides the kind, and its
payload is printed beside the kind's name: `<INTEGER, -33>`, `<ERROR, "34RR">`.
-/

namespace LogicLexer

/-- Why a part of the text is no token. -/
inductive Issue where
  /-- It starts with a character that starts no token. -/
  | unrecognisedSymbol
  /-- It starts with digits and goes on with letters. -/
  | malformedNumber
  /-- It is a whole number beyond 64 bits. -/
  | integerOverflow
deriving DecidableEq

/-- What a token stands for. -/
inductive Value where
  /-- The name at an index of the symbol table. -/
  | identifier (index : Nat)
  /-- A whole number. -/
  | integer (number : Int64)
  /-- A number with a decimal point. -/
  | float (number : Binary64)
  /-- The operator `&&`. -/
  | logicalAnd
  /-- The operator `||`. -/
  | logicalOr
  /-- The operator `&`. -/
  | bitwiseAnd
  /-- The operator `|`. -/
  | bitwiseOr
  /-- A part of the text that is no token, and why. -/
  | error (lexeme : String) (issue : Issue)
deriving DecidableEq

namespace Value

/-- The kind of a value. -/
def kind : Value → Kind
  | identifier _ => .identifier
  | integer _ => .integer
  | float _ => .float
  | logicalAnd => .logicalAnd
  | logicalOr => .logicalOr
  | bitwiseAnd => .bitwiseAnd
  | bitwiseOr => .bitwiseOr
  | error .. => .error

/-- The payload as it is printed. An erroneous text stands between quotes as it is. -/
def text : Value → String
  | identifier index => index.repr
  | integer number => number.toInt.repr
  | float number => number.text
  | error lexeme _ => "\"" ++ lexeme ++ "\""
  | logicalAnd | logicalOr | bitwiseAnd | bitwiseOr => "nothing"

/-- Equality of values: as numbers for floats, and as they stand for all others. -/
def equal : Value → Value → Bool
  | float x, float y => x.numEq y
  | v, w => v == w

end Value

/-- A value and where it stands in the text. -/
structure Token where
  /-- What the token stands for. -/
  value : Value
  /-- The part of the text that it was read from. -/
  span : Span
deriving DecidableEq

namespace Token

/-- The kind of a token. -/
def kind (t : Token) : Kind :=
  t.value.kind

/-- Whether the token marks an error. -/
def isError (t : Token) : Bool :=
  t.kind == .error

/-- A token as it is printed. -/
def text (t : Token) : String :=
  "<" ++ t.kind.name ++ ", " ++ t.value.text ++ ">"

/-- Equality of tokens: equal values in the same place. -/
def equal (t u : Token) : Bool :=
  t.value.equal u.value && t.span == u.span

end Token

end LogicLexer
