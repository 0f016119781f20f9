import LogicLexer.Lexeme.Value

/-!
# The scanner

A scanner stands at a place of a text and hands out its tokens one by one: `Scanner.next` skips
blanks, reads one lexeme and moves behind it. The text in front of the scanner is kept as a list
of characters, and the place as a byte offset that fits it (`Scanner.splits`).

`next_eq_none_iff` says when there are no more tokens, and `length_rest_next_lt` that each token
leaves less text, by which `Scanner.drain` ends.
-/

namespace LogicLexer

open Text

/-- A place in a text, and the names met on the way to it. -/
structure Scanner where
  /-- The whole text. -/
  source : String
  /-- The part of the text that has not been read. -/
  rest : List Char
  /-- The number of bytes that have been read. -/
  position : Nat
  /-- The names read so far. -/
  symbols : SymbolTable
  /-- The part that has been read takes up the bytes before the position. -/
  splits : ∃ before, before ++ rest = source.toList ∧ byteLength before = position

namespace Scanner

/-- A scanner at the start of a text. -/
def ofText (text : String) : Scanner :=
  ⟨text, text.toList, 0, .empty, [], by simp⟩

/-- Whether the scanner stands at the end of its text. Trailing blanks are not skipped first. -/
def atEnd (s : Scanner) : Bool :=
  s.rest.isEmpty

/-- The scanner behind the next part of its text, with the given symbol table. -/
def advance (s : Scanner) (part rest : List Char) (symbols : SymbolTable)
    (h : part ++ rest = s.rest) : Scanner where
  source := s.source
  rest := rest
  position := s.position + byteLength part
  symbols := symbols
  splits := by
    obtain ⟨before, happ, hlen⟩ := s.splits
    exact ⟨before ++ part, by rw [List.append_assoc, h, happ], by rw [byteLength_append, hlen]⟩

/-- The scanner behind the blanks in front of it. -/
def skipBlanks (s : Scanner) : Scanner :=
  s.advance (s.rest.takeWhile isWhiteSpace) (s.rest.dropWhile isWhiteSpace) s.symbols
    List.takeWhile_append_dropWhile

/-- The next token, if there is one, and the scanner behind it. -/
def next (s : Scanner) : Option Token × Scanner :=
  let s := s.skipBlanks
  match h : s.rest with
  | [] => (none, s)
  | c :: cs =>
    let lexeme := (Lexeme.read c cs).1
    let (value, symbols) := lexeme.value s.symbols
    let behind := s.advance lexeme.text (Lexeme.read c cs).2 symbols
      ((Lexeme.text_read_append c cs).trans h.symm)
    (some ⟨value, ⟨s.position, behind.position⟩⟩, behind)

/-- Skipping blanks leaves no more text than there was. -/
theorem length_rest_skipBlanks_le (s : Scanner) : s.skipBlanks.rest.length ≤ s.rest.length :=
  (List.dropWhile_suffix _).length_le

/-- Where only blanks are left, there is no token, and the scanner skips them. -/
theorem next_of_eq_nil {s : Scanner} (h : s.rest.dropWhile isWhiteSpace = []) :
    s.next = (none, s.skipBlanks) := by
  have hrest : s.skipBlanks.rest = [] := h
  unfold next
  dsimp only
  split
  · rfl
  · simp_all

/-- Where something other than blanks is left, it starts a token, and the scanner moves behind
it. -/
theorem next_of_eq_cons {s : Scanner} {c : Char} {cs : List Char}
    (h : s.rest.dropWhile isWhiteSpace = c :: cs) :
    s.next =
      (some ⟨((Lexeme.read c cs).1.value s.symbols).1,
        ⟨s.skipBlanks.position, s.skipBlanks.position + byteLength (Lexeme.read c cs).1.text⟩⟩,
      s.skipBlanks.advance (Lexeme.read c cs).1.text (Lexeme.read c cs).2
        ((Lexeme.read c cs).1.value s.symbols).2
        ((Lexeme.text_read_append c cs).trans h.symm)) := by
  have hrest : s.skipBlanks.rest = c :: cs := h
  unfold next
  dsimp only
  split
  · simp_all
  · rename_i d ds hd
    obtain ⟨rfl, rfl⟩ : d = c ∧ ds = cs := by simpa using hd.symm.trans hrest
    rfl

/-- A scanner that finds a token has skipped the blanks, and has read a lexeme at the character
behind them. -/
theorem of_next_eq_some {s s' : Scanner} {t : Token} (h : s.next = (some t, s')) :
    ∃ c cs, ∃ hrest : s.rest.dropWhile isWhiteSpace = c :: cs,
      t = ⟨((Lexeme.read c cs).1.value s.symbols).1,
        ⟨s.skipBlanks.position, s.skipBlanks.position + byteLength (Lexeme.read c cs).1.text⟩⟩ ∧
      s' = s.skipBlanks.advance (Lexeme.read c cs).1.text (Lexeme.read c cs).2
        ((Lexeme.read c cs).1.value s.symbols).2
        ((Lexeme.text_read_append c cs).trans hrest.symm) := by
  have hne : s.rest.dropWhile isWhiteSpace ≠ [] := fun hnil => by
    simp [next_of_eq_nil hnil] at h
  obtain ⟨c, cs, hrest⟩ := List.exists_cons_of_ne_nil hne
  obtain ⟨htoken, hbehind⟩ := Prod.mk.inj ((next_of_eq_cons hrest).symm.trans h)
  exact ⟨c, cs, hrest, (Option.some.inj htoken).symm, hbehind.symm⟩

/-- A scanner that finds no token has skipped the blanks, and nothing else is left. -/
theorem of_next_eq_none {s s' : Scanner} (h : s.next = (none, s')) :
    s.rest.dropWhile isWhiteSpace = [] ∧ s' = s.skipBlanks := by
  cases hrest : s.rest.dropWhile isWhiteSpace with
  | nil => exact ⟨rfl, congrArg Prod.snd (h.symm.trans (next_of_eq_nil hrest))⟩
  | cons c cs => simp [next_of_eq_cons hrest] at h

/-- There is no token exactly where only blanks are left. -/
theorem next_eq_none_iff (s : Scanner) : s.next.1 = none ↔ ∀ c ∈ s.rest, isWhiteSpace c = true := by
  rw [← trimStart_eq_nil_iff, trimStart]
  cases h : s.rest.dropWhile isWhiteSpace with
  | nil => simp [next_of_eq_nil h]
  | cons c cs => simp [next_of_eq_cons h]

/-- A token leaves less text than there was. -/
theorem length_rest_next_lt {s s' : Scanner} {t : Token} (h : s.next = (some t, s')) :
    s'.rest.length < s.rest.length := by
  obtain ⟨c, cs, hrest, -, rfl⟩ := of_next_eq_some h
  refine Nat.lt_of_lt_of_le (Lexeme.length_read_lt c cs) ?_
  rw [← hrest]
  exact s.length_rest_skipBlanks_le

/-- All tokens from the scanner's place on, and the scanner at the end of its text. -/
def drain (s : Scanner) : List Token × Scanner :=
  match h : s.next with
  | (none, last) => ([], last)
  | (some t, behind) =>
    have := length_rest_next_lt h
    let (ts, last) := behind.drain
    (t :: ts, last)
termination_by s.rest.length

/-- At most a number of tokens from the scanner's place on, and the scanner behind them. -/
def take (s : Scanner) : Nat → List Token × Scanner
  | 0 => ([], s)
  | count + 1 =>
    match s.next with
    | (none, s) => ([], s)
    | (some t, s) =>
      let (ts, last) := s.take count
      (t :: ts, last)

/-- One token comes before the others. -/
theorem drain_of_next_eq_some {s s' : Scanner} {t : Token} (h : s.next = (some t, s')) :
    s.drain = (t :: s'.drain.1, s'.drain.2) := by
  rw [drain]
  split <;> simp_all

/-- Where there is no token, there are none. -/
theorem drain_of_next_eq_none {s s' : Scanner} (h : s.next = (none, s')) : s.drain = ([], s') := by
  rw [drain]
  split <;> simp_all

end Scanner

/-- The tokens of a text, and the names in it. -/
def tokenize (text : String) : List Token × SymbolTable :=
  let (tokens, last) := (Scanner.ofText text).drain
  (tokens, last.symbols)

end LogicLexer
