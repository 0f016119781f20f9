import LogicLexer.Text.Alphabetic
import LogicLexer.Text.Numeric
import LogicLexer.Text.WhiteSpace

/-!
# Lexemes

A text is lexemes with blanks between them. `Lexeme.read` reads the lexeme at the front of a text
that starts with no blank; one character, sometimes a second, tells which form it takes. Every text
has a first lexeme: what no form fits is an unrecognised symbol. Two forms stop where another form
would go on: digits behind a minus sign, or behind a point, may be followed by a letter.

`text_read_append` says that the lexeme and what is left are the text, and `text_ne_nil` that
something was read.
-/

namespace LogicLexer

open Text

/-- Whether a character starts an identifier. -/
def isIdentifierStart (c : Char) : Bool :=
  isAlphabetic c || c == '_'

/-- Whether a character continues an identifier. -/
def isIdentifierContinue (c : Char) : Bool :=
  isAlphabetic c || isNumeric c || c == '_'

/-- Whether a character starts a token, or may do so: a minus sign does so before a digit. -/
def isTokenStart (c : Char) : Bool :=
  isIdentifierStart c || c.isDigit || c == '-' || c == '&' || c == '|'

/-- Whether a character continues an unrecognised symbol. -/
def isSymbolContinue (c : Char) : Bool :=
  !isWhiteSpace c && !isTokenStart c

/-- A piece of text that makes one token. -/
inductive Lexeme where
  /-- A letter or underscore, and letters, numeric characters and underscores. -/
  | identifier (name : List Char)
  /-- Digits, with or without a minus sign. -/
  | integer (negative : Bool) (digits : List Char)
  /-- Digits around a point, with or without a minus sign. Those behind the point may be missing. -/
  | float (negative : Bool) (whole fraction : List Char)
  /-- Digits that go on as an identifier does. -/
  | malformedNumber (text : List Char)
  /-- Two ampersands. -/
  | logicalAnd
  /-- Two bars. -/
  | logicalOr
  /-- One ampersand. -/
  | bitwiseAnd
  /-- One bar. -/
  | bitwiseOr
  /-- A character that starts no token, and all up to a blank or the start of a token. -/
  | unrecognised (text : List Char)
deriving DecidableEq

namespace Lexeme

/-- The sign in front of a number. -/
def sign (negative : Bool) : List Char :=
  if negative then ['-'] else []

/-- The characters of a lexeme. -/
def text : Lexeme → List Char
  | identifier name => name
  | integer negative digits => sign negative ++ digits
  | float negative whole fraction => sign negative ++ whole ++ '.' :: fraction
  | malformedNumber text => text
  | logicalAnd => ['&', '&']
  | logicalOr => ['|', '|']
  | bitwiseAnd => ['&']
  | bitwiseOr => ['|']
  | unrecognised text => text

/-- Reads the rest of a number behind its first digits: a point and more digits, if there is a
point. -/
def readNumber (negative : Bool) (digits : List Char) : List Char → Lexeme × List Char
  | '.' :: cs => (float negative digits (cs.takeWhile Char.isDigit), cs.dropWhile Char.isDigit)
  | cs => (integer negative digits, cs)

/-- Reads an operator behind its first character: the double one if the character is repeated. -/
def readOperator (c : Char) (double single : Lexeme) : List Char → Lexeme × List Char
  | [] => (single, [])
  | d :: cs => if d = c then (double, cs) else (single, d :: cs)

/-- Reads the lexeme that starts with the character `c` and goes on in `cs`, and leaves the rest. -/
def read (c : Char) (cs : List Char) : Lexeme × List Char :=
  if isIdentifierStart c then
    (identifier (c :: cs.takeWhile isIdentifierContinue), cs.dropWhile isIdentifierContinue)
  else if c.isDigit then
    let digits := c :: cs.takeWhile Char.isDigit
    let rest := cs.dropWhile Char.isDigit
    if rest.head?.any isIdentifierStart then
      (malformedNumber (digits ++ rest.takeWhile isIdentifierContinue),
        rest.dropWhile isIdentifierContinue)
    else readNumber false digits rest
  else if c = '-' ∧ cs.head?.any Char.isDigit then
    readNumber true (cs.takeWhile Char.isDigit) (cs.dropWhile Char.isDigit)
  else if c = '&' then readOperator '&' logicalAnd bitwiseAnd cs
  else if c = '|' then readOperator '|' logicalOr bitwiseOr cs
  else
    (unrecognised (c :: cs.takeWhile isSymbolContinue), cs.dropWhile isSymbolContinue)

/-- The rest of a number is read without loss. -/
theorem text_readNumber_append (negative : Bool) (digits cs : List Char) :
    (readNumber negative digits cs).1.text ++ (readNumber negative digits cs).2 =
      sign negative ++ digits ++ cs := by
  unfold readNumber
  split <;> simp [text]

/-- An operator is read without loss. -/
theorem text_readOperator_append {c : Char} {double single : Lexeme} (hd : double.text = [c, c])
    (hs : single.text = [c]) (cs : List Char) :
    (readOperator c double single cs).1.text ++ (readOperator c double single cs).2 = c :: cs := by
  unfold readOperator
  split
  · simp [hs]
  · split
    · simp_all
    · simp [hs]

/-- The lexeme and what is left are the text. -/
theorem text_read_append (c : Char) (cs : List Char) :
    (read c cs).1.text ++ (read c cs).2 = c :: cs := by
  unfold read
  split
  · simp [text]
  · split
    · dsimp only
      split
      · simp [text]
      · simp [text_readNumber_append, sign]
    · split
      · rename_i h
        simp [text_readNumber_append, sign, h.1]
      · split
        · rename_i h
          rw [text_readOperator_append rfl rfl, h]
        · split
          · rename_i h
            rw [text_readOperator_append rfl rfl, h]
          · simp [text]

/-- A number is at least its digits. -/
theorem text_readNumber_ne_nil (negative : Bool) {digits : List Char} (h : digits ≠ [])
    (cs : List Char) : (readNumber negative digits cs).1.text ≠ [] := by
  unfold readNumber
  split <;> simp [text, h]

/-- An operator is at least one character. -/
theorem text_readOperator_ne_nil {c : Char} {double single : Lexeme} (hd : double.text ≠ [])
    (hs : single.text ≠ []) (cs : List Char) : (readOperator c double single cs).1.text ≠ [] := by
  unfold readOperator
  split
  · exact hs
  · split
    · exact hd
    · exact hs

/-- A lexeme that is read holds a character. -/
theorem text_read_ne_nil (c : Char) (cs : List Char) : (read c cs).1.text ≠ [] := by
  unfold read
  split
  · simp [text]
  · split
    · dsimp only
      split
      · simp [text]
      · exact text_readNumber_ne_nil _ (by simp) _
    · split
      · rename_i h
        refine text_readNumber_ne_nil _ ?_ _
        cases cs <;> simp_all
      · split
        · exact text_readOperator_ne_nil (by simp [text]) (by simp [text]) _
        · split
          · exact text_readOperator_ne_nil (by simp [text]) (by simp [text]) _
          · simp [text]

/-- Reading a lexeme leaves less text. -/
theorem length_read_lt (c : Char) (cs : List Char) : (read c cs).2.length < (c :: cs).length := by
  have happ := congrArg List.length (text_read_append c cs)
  have hne := List.length_pos_iff.2 (text_read_ne_nil c cs)
  rw [List.length_append] at happ
  omega

end Lexeme

end LogicLexer
