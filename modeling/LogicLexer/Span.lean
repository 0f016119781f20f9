import LogicLexer.Text.ByteOffset

/-!
# Spans of a text

A span runs from one byte offset of a text to another. Spans that come from elsewhere than a scan
may be reversed or cut a character in two; then they have no length, or no text.
-/

namespace LogicLexer

/-- The bytes from `start` up to, but not including, `stop`. -/
structure Span where
  /-- The offset of the first byte. -/
  start : Nat
  /-- The offset behind the last byte. -/
  stop : Nat
deriving DecidableEq

namespace Span

/-- The number of bytes, unless the span is reversed. -/
def length? (s : Span) : Option Nat :=
  if s.start ≤ s.stop then some (s.stop - s.start) else none

/-- Whether the span holds no byte. -/
def isEmpty (s : Span) : Bool :=
  s.start == s.stop

/-- The part of a text that the span covers, if it is one. -/
def textIn? (s : Span) (text : String) : Option String :=
  (Text.slice? s.start s.stop text.toList).map String.ofList

end Span

end LogicLexer
