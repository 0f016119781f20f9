import LogicLexer.Text.ByteOffset

/-!
# Lines

A text is cut into lines behind each line feed, which belongs to the line that it ends; no other
character ends a line. `flatten_lines` says that nothing is lost by the cut. `Place.at?` tells the
line of a byte position and its column, which counts characters.
-/

namespace LogicLexer

open Text

/-- The lines of a text, each with the line feed that ends it. -/
def lines : List Char → List (List Char)
  | [] => []
  | c :: cs =>
    if c = '\n' then [c] :: lines cs
    else
      match lines cs with
      | [] => [[c]]
      | line :: rest => (c :: line) :: rest

/-- A place in a text, told by its line. -/
structure Place where
  /-- The number of the line; the first has number one. -/
  line : Nat
  /-- The whole line, with the line feed that ends it. -/
  content : List Char
  /-- The number of characters before the place on its line. -/
  column : Nat
deriving DecidableEq

/-- The place at an offset into the given lines, the first of which has the given number. -/
def Place.among? (number : Nat) : List (List Char) → Nat → Option Place
  | [], _ => none
  | line :: rest, offset =>
    if offset < byteLength line then
      (splitAtByte? offset line).map fun (before, _) => ⟨number, line, before.length⟩
    else among? (number + 1) rest (offset - byteLength line)

/-- The place of a byte position. There is none inside a character, or at the end of the text. -/
def Place.at? (text : String) (position : Nat) : Option Place :=
  Place.among? 1 (lines text.toList) position

/-- The lines of a text are the text. -/
theorem flatten_lines (cs : List Char) : (lines cs).flatten = cs := by
  induction cs with
  | nil => rfl
  | cons c cs ih =>
    unfold lines
    split
    · simp [ih]
    · split
      · rename_i h
        simp [h] at ih
        simp [ih]
      · rename_i line rest h
        rw [h] at ih
        simpa using ih

end LogicLexer
