import LogicLexer.Source

/-!
# Menu sessions

A session steps through the tokens of a source by the choices of a menu. When there are no more
tokens it starts again at the top of the source, with no names in the table. What is no choice is
answered and changes nothing.
-/

namespace LogicLexer

/-- The choices of the menu. -/
inductive MenuChoice where
  /-- Print the next token. -/
  | nextToken
  /-- Print the symbol table. -/
  | showSymbols
  /-- Leave the menu. -/
  | exit
deriving DecidableEq

/-- The choice that an input makes, blanks around it left aside. -/
def MenuChoice.parse? (input : String) : Option MenuChoice :=
  match Text.trim input.toList with
  | ['1'] => some nextToken
  | ['2'] => some showSymbols
  | ['3'] => some exit
  | _ => none

/-- Whether the menu is shown again. -/
inductive Flow where
  /-- The menu is shown again. -/
  | goOn
  /-- The session is over. -/
  | exit
deriving DecidableEq

/-- A source, and a scanner on the way through it. -/
structure Session where
  /-- The source. -/
  source : Source
  /-- The scanner. -/
  scanner : Scanner

/-- What an input to a session comes to. -/
structure Session.Answer where
  /-- The text that is printed. -/
  output : String
  /-- Whether the menu is shown again. -/
  flow : Flow
  /-- The session afterwards. -/
  session : Session

namespace Session

/-- A session at the top of a source. -/
def ofSource (source : Source) : Session :=
  ⟨source, source.scanner⟩

/-- Prints the next token, or says that there is none and goes back to the top. -/
def nextToken (s : Session) : Answer :=
  match s.scanner.next with
  | (some token, scanner) => ⟨token.text ++ "\n", .goOn, { s with scanner }⟩
  | (none, _) => ⟨"End of file reached.\n", .goOn, ofSource s.source⟩

/-- Does what an input asks for. -/
def handle (s : Session) (input : String) : Answer :=
  match MenuChoice.parse? input with
  | some .nextToken => s.nextToken
  | some .showSymbols => ⟨s.scanner.symbols.listing ++ "\n", .goOn, s⟩
  | some .exit => ⟨"Exiting program.\n", .exit, s⟩
  | none => ⟨"Invalid choice. Please enter 1, 2, or 3.\n", .goOn, s⟩

/-- The menu. -/
def menu : String :=
  "\nMenu:\n1. Call lex()\n2. Show symbol table\n3. Exit\n"

end Session

end LogicLexer
