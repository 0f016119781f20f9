import LogicLexer.Lexeme
import LogicLexer.SymbolTable
import LogicLexer.Token

/-!
# What a lexeme stands for

An identifier stands for its index in the symbol table, which learns it; a number for its exact
value, or for the nearest double-precision number if it has a point. A whole number beyond 64 bits
is an error, as are the two malformed forms. Only an identifier changes the table
(`symbols_value`).
-/

namespace LogicLexer.Lexeme

/-- The value of digits with or without a minus sign. -/
def integerValue (negative : Bool) (digits : List Char) : Value :=
  let magnitude : Int := Nat.ofDigitChars 10 digits 0
  let number := if negative then -magnitude else magnitude
  if Int64.minValue.toInt ≤ number ∧ number ≤ Int64.maxValue.toInt then
    .integer (Int64.ofInt number)
  else .error (String.ofList (sign negative ++ digits)) .integerOverflow

/-- The value of a lexeme, and the symbol table afterwards. -/
def value (symbols : SymbolTable) : Lexeme → Value × SymbolTable
  | identifier name =>
    let (index, symbols) := symbols.intern (String.ofList name)
    (.identifier index, symbols)
  | integer negative digits => (integerValue negative digits, symbols)
  | float negative whole fraction =>
    (.float (Binary64.ofDecimal negative whole fraction), symbols)
  | malformedNumber text => (.error (String.ofList text) .malformedNumber, symbols)
  | logicalAnd => (.logicalAnd, symbols)
  | logicalOr => (.logicalOr, symbols)
  | bitwiseAnd => (.bitwiseAnd, symbols)
  | bitwiseOr => (.bitwiseOr, symbols)
  | unrecognised text => (.error (String.ofList text) .unrecognisedSymbol, symbols)

/-- Only an identifier changes the symbol table, by its name. -/
theorem symbols_value (symbols : SymbolTable) (l : Lexeme) :
    (l.value symbols).2 =
      if let identifier name := l then symbols.insert (String.ofList name) else symbols := by
  cases l <;> rfl

end LogicLexer.Lexeme
