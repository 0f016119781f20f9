import LogicLexer.Text.GraphemeExtend
import LogicLexer.Text.Printable

/-!
# Quoted texts

A message shows a text that may hold anything between double quotes, with the characters that
would not show as themselves escaped: six by a letter or sign of their own, and those that are not
printable, or that would be drawn into the character before them, by their code point in
hexadecimal. An apostrophe stands as it is.
-/

namespace LogicLexer.Text

/-- The character that follows the backslash in a two-character escape. -/
def escapeLetter? (c : Char) : Option Char :=
  if c = '\x00' then some '0'
  else if c = '\t' then some 't'
  else if c = '\r' then some 'r'
  else if c = '\n' then some 'n'
  else if c = '"' then some '"'
  else if c = '\\' then some '\\'
  else none

/-- A code point in lower-case hexadecimal, without leading zeros. -/
def hexDigits (n : Nat) : List Char :=
  Nat.toDigits 16 n

/-- A character as it stands in a quoted text. -/
def escape (c : Char) : List Char :=
  match escapeLetter? c with
  | some letter => ['\\', letter]
  | none =>
    if isDrawnOver c || !isPrintable c then
      ['\\', 'u', '\x7b'] ++ hexDigits c.toNat ++ ['\x7d']
    else [c]

/-- The characters of a text between double quotes, each escaped where it needs to be. -/
def quote (cs : List Char) : List Char :=
  '"' :: cs.flatMap escape ++ ['"']

/-- A text between double quotes, as messages show it. -/
def quoted (text : String) : String :=
  String.ofList (quote text.toList)

end LogicLexer.Text
