import LogicLexer.Lexeme.Value

/-!
# The kind of a lexeme

A lexeme makes a token of the same kind whatever names the symbol table has (`kind_value`): the
table only gives the index of a name. So what is an error and what is a name can be told without a
scan. `symbols_value_eq` says what the table learns by the name of the lexeme alone.
-/

namespace LogicLexer

/-- Only the index of a name is of the kind of identifiers. -/
theorem Value.kind_eq_identifier_iff (v : Value) :
    v.kind = .identifier ↔ ∃ index, v = .identifier index := by
  cases v <;> simp [kind]

namespace Lexeme

/-- The kind of token that a lexeme makes. -/
def kind : Lexeme → Kind
  | identifier _ => .identifier
  | integer negative digits => (integerValue negative digits).kind
  | float .. => .float
  | malformedNumber _ | unrecognised _ => .error
  | logicalAnd => .logicalAnd
  | logicalOr => .logicalOr
  | bitwiseAnd => .bitwiseAnd
  | bitwiseOr => .bitwiseOr

/-- The name that a lexeme is, if it is one. -/
def name? : Lexeme → Option String
  | identifier name => some (String.ofList name)
  | _ => none

/-- A lexeme stands for a value of its kind by every symbol table. -/
theorem kind_value (l : Lexeme) (table : SymbolTable) : (l.value table).1.kind = l.kind := by
  cases l <;> rfl

/-- The symbol table learns the name of a lexeme, and nothing from a lexeme without one. -/
theorem symbols_value_eq (l : Lexeme) (table : SymbolTable) :
    (l.value table).2 = (l.name?.map table.insert).getD table := by
  cases l <;> rfl

/-- Digits stand for a number, or are an error. -/
theorem kind_integerValue (negative : Bool) (digits : List Char) :
    (integerValue negative digits).kind = .integer ∨
      (integerValue negative digits).kind = .error := by
  unfold integerValue
  dsimp only
  -- Whatever the number is, it is in range or not.
  generalize hnumber : (if negative = true then _ else _ : Int) = number
  split
  · exact Or.inl rfl
  · exact Or.inr rfl

/-- Just the names are of the kind of identifiers. -/
theorem kind_eq_identifier_iff (l : Lexeme) :
    l.kind = .identifier ↔ ∃ name, l = identifier name := by
  cases l with
  | integer negative digits =>
    rcases kind_integerValue negative digits with h | h
    · simp [kind, h]
    · simp [kind, h]
  | _ => simp [kind]

/-- Just the numbers with a point are of their kind. -/
theorem kind_eq_float_iff (l : Lexeme) :
    l.kind = .float ↔ ∃ negative whole fraction, l = float negative whole fraction := by
  cases l with
  | integer negative digits =>
    rcases kind_integerValue negative digits with h | h
    · simp [kind, h]
    · simp [kind, h]
  | _ => simp [kind]

/-- An error has no name. -/
theorem name?_of_kind_eq_error {l : Lexeme} (h : l.kind = .error) : l.name? = none := by
  cases l with
  | identifier name => exact absurd h (by simp [kind])
  | _ => rfl

/-- An error holds the text of the lexeme that it stands for. -/
theorem toList_of_value_eq_error {l : Lexeme} {table : SymbolTable} {w : String} {issue : Issue}
    (h : (l.value table).1 = .error w issue) : w.toList = l.text := by
  cases l with
  | integer negative digits =>
    have hvalue : integerValue negative digits = .error w issue := h
    unfold integerValue at hvalue
    dsimp only at hvalue
    generalize (if negative = true then _ else _ : Int) = number at hvalue
    split at hvalue
    · exact absurd hvalue (by simp)
    · obtain ⟨rfl, -⟩ := Value.error.inj hvalue
      exact String.toList_ofList
  | malformedNumber text =>
    obtain ⟨rfl, -⟩ := Value.error.inj h
    exact String.toList_ofList
  | unrecognised text =>
    obtain ⟨rfl, -⟩ := Value.error.inj h
    exact String.toList_ofList
  | _ => exact absurd h (by simp [value])

end Lexeme

end LogicLexer
