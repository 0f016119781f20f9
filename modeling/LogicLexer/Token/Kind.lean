import LogicLexer.Text.WhiteSpace

/-!
# Kinds of tokens and their names

Each kind has a name in capitals, by which tokens are printed and kinds are asked for. `Kind.parse`
reads a name whatever the case of its ASCII letters and whatever blanks stand around it. What it
looks the name up in is a list of its own, which has the names that are printed
(`byName_eq_map_all`); `parse_name` says that every name is read back.
-/

namespace LogicLexer

/-- The kinds of tokens. -/
inductive Kind where
  /-- A name. -/
  | identifier
  /-- A whole number. -/
  | integer
  /-- A number with a decimal point. -/
  | float
  /-- The operator `&&`. -/
  | logicalAnd
  /-- The operator `||`. -/
  | logicalOr
  /-- The operator `&`. -/
  | bitwiseAnd
  /-- The operator `|`. -/
  | bitwiseOr
  /-- A part of the text that is no token of the other kinds. -/
  | error
deriving DecidableEq

/-- A text that names no kind. -/
structure UnknownKind where
  /-- The text as it was given. -/
  text : String
deriving DecidableEq

/-- What is reported about a text that names no kind. -/
def UnknownKind.message (e : UnknownKind) : String :=
  "unknown token kind `" ++ e.text ++ "`"

namespace Kind

/-- Every kind, in the order of their listing. -/
def all : List Kind :=
  [identifier, integer, float, logicalAnd, logicalOr, bitwiseAnd, bitwiseOr, error]

/-- The name by which a kind is printed. -/
def name : Kind → String
  | identifier => "ID"
  | integer => "INTEGER"
  | float => "FLOAT"
  | logicalAnd => "LOGICAL_AND"
  | logicalOr => "LOGICAL_OR"
  | bitwiseAnd => "BITWISE_AND"
  | bitwiseOr => "BITWISE_OR"
  | error => "ERROR"

/-- The kinds by the names that they are looked up by. -/
def byName : List (String × Kind) :=
  [("ID", identifier), ("INTEGER", integer), ("FLOAT", float), ("LOGICAL_AND", logicalAnd),
   ("LOGICAL_OR", logicalOr), ("BITWISE_AND", bitwiseAnd), ("BITWISE_OR", bitwiseOr),
   ("ERROR", error)]

/-- The kind of a name, read without the blanks around it and in capitals. -/
def parse (text : String) : Except UnknownKind Kind :=
  let name := (Text.trim text.toList).map Char.toUpper
  match byName.find? fun entry => entry.1.toList == name with
  | some (_, k) => .ok k
  | none => .error ⟨text⟩

/-- No kind is missing from the listing. -/
theorem mem_all (k : Kind) : k ∈ all := by
  cases k <;> decide

/-- The kinds are looked up by the names that they are printed by. -/
theorem byName_eq_map_all : byName = all.map fun k => (k.name, k) :=
  rfl

/-- A kind's name is read back as that kind. -/
theorem parse_name (k : Kind) : parse k.name = .ok k := by
  cases k <;> rfl

end Kind

end LogicLexer
