import LogicLexer.Proofs.Scanner.MaximalMunch
import Mathlib.Logic.Function.Iterate

/-!
# Runs of a scanner

`Scanner.after` is the scanner after a number of calls for a token, whether they find one or not.
The call behind so many others hands out the token of that index (`next_fst_after`), and the call
that finds none ends the run: it takes the scanner to the end of its text, where the scanner stays
(`next_of_rest_eq_nil`).

What a single call does is said once for the call that finds a token
(`exists_lexeme_of_next_eq_some`) and once for the call that does not (`rest_of_next_eq_none`); what
holds of every state of a run is shown from these two.
-/

namespace LogicLexer.Scanner

open Text

/-- The scanner after a number of calls for a token. -/
def after (s : Scanner) (count : Nat) : Scanner :=
  (fun s => s.next.2)^[count] s

/-- One more call. -/
theorem after_succ (s : Scanner) (count : Nat) : s.after (count + 1) = (s.after count).next.2 :=
  Function.iterate_succ_apply' _ count s

/-! ## One call -/

/-- The lexeme that is read behind the blanks is the part of the text there. -/
theorem textIn?_read (s : Scanner) {c : Char} {cs : List Char}
    (h : s.rest.dropWhile isWhiteSpace = c :: cs) :
    (Span.mk s.skipBlanks.position
      (s.skipBlanks.position + byteLength (Lexeme.read c cs).1.text)).textIn? s.source =
        some (String.ofList (Lexeme.read c cs).1.text) := by
  have hsplit : s.rest = s.rest.takeWhile isWhiteSpace ++ (Lexeme.read c cs).1.text ++
      (Lexeme.read c cs).2 := by
    rw [List.append_assoc, Lexeme.text_read_append, ← h, List.takeWhile_append_dropWhile]
  exact s.textIn?_of_rest_eq hsplit

/-- A call that finds a token hands out a lexeme of the text, and the symbol table learns what the
lexeme stands for. -/
theorem exists_lexeme_of_next_eq_some {s s' : Scanner} {t : Token} (h : s.next = (some t, s')) :
    ∃ l : Lexeme, t.value = (l.value s.symbols).1 ∧ s'.symbols = (l.value s.symbols).2 ∧
      t.span.textIn? s.source = some (String.ofList l.text) ∧ s'.source = s.source := by
  obtain ⟨c, cs, hrest, rfl, rfl⟩ := of_next_eq_some h
  exact ⟨(Lexeme.read c cs).1, rfl, rfl, s.textIn?_read hrest, rfl⟩

/-- A call that finds no token takes the scanner to the end of its text and teaches the symbol table
nothing. -/
theorem rest_of_next_eq_none {s s' : Scanner} (h : s.next = (none, s')) :
    s'.rest = [] ∧ s'.symbols = s.symbols ∧ s'.source = s.source := by
  obtain ⟨hrest, rfl⟩ := of_next_eq_none h
  exact ⟨hrest, rfl, rfl⟩

/-- At the end of its text a scanner finds no token and stays as it is. -/
theorem next_of_rest_eq_nil {s : Scanner} (h : s.rest = []) : s.next = (none, s) := by
  have hblanks : s.skipBlanks = s := by
    obtain ⟨source, rest, position, symbols, splits⟩ := s
    obtain rfl : rest = [] := h
    rfl
  have hnone : s.rest.dropWhile isWhiteSpace = [] := by
    rw [h]
    rfl
  rw [next_of_eq_nil hnone, hblanks]

/-! ## All calls -/

/-- The text stays the same. -/
theorem source_after (s : Scanner) (count : Nat) : (s.after count).source = s.source := by
  induction count with
  | zero => rfl
  | succ count ih =>
    rw [after_succ, ← ih]
    rcases h : (s.after count).next with ⟨_ | t, s'⟩
    · exact (rest_of_next_eq_none h).2.2
    · obtain ⟨l, -, -, -, hsource⟩ := exists_lexeme_of_next_eq_some h
      exact hsource

/-- After a number of calls, the next one hands out the token of that index, if there is one. -/
theorem next_fst_after (s : Scanner) (count : Nat) :
    (s.after count).next.1 = s.drain.1[count]? := by
  induction count generalizing s with
  | zero =>
    show s.next.1 = s.drain.1[0]?
    rcases h : s.next with ⟨_ | t, s'⟩
    · rw [drain_of_next_eq_none h]
      rfl
    · rw [drain_of_next_eq_some h]
      rfl
  | succ count ih =>
    have hfirst : s.after (count + 1) = s.next.2.after count := rfl
    rw [hfirst, ih]
    rcases h : s.next with ⟨_ | t, s'⟩
    · -- The scanner is at the end, where no later call finds anything.
      have hend := next_of_rest_eq_nil (rest_of_next_eq_none h).1
      show s'.drain.1[count]? = s.drain.1[count + 1]?
      rw [drain_of_next_eq_none h, drain_of_next_eq_none hend]
      rfl
    · rw [drain_of_next_eq_some h]
      rfl

/-- The calls that find the tokens, and the one that finds none, take the scanner to where it is
drained. -/
theorem after_length_drain (s : Scanner) : s.after (s.drain.1.length + 1) = s.drain.2 := by
  generalize hcount : s.drain.1.length = count
  induction count generalizing s with
  | zero =>
    have hnone : s.next.1 = none := by
      have hfirst := s.next_fst_after 0
      rw [List.getElem?_eq_none (by omega)] at hfirst
      exact hfirst
    have hnext : s.next = (none, s.next.2) := Prod.ext hnone rfl
    rw [drain_of_next_eq_none hnext]
    rfl
  | succ count ih =>
    rcases h : s.next with ⟨_ | t, s'⟩
    · rw [drain_of_next_eq_none h] at hcount
      exact absurd hcount (by simp)
    · rw [drain_of_next_eq_some h] at hcount ⊢
      have hs' := ih s' (by simpa using hcount)
      show s.next.2.after (count + 1) = s'.drain.2
      rw [h]
      exact hs'

/-- The last table of a text is the one after all its tokens. -/
theorem symbols_tokenize_eq_after (source : String) :
    (tokenize source).2 =
      ((ofText source).after ((tokenize source).1.length + 1)).symbols :=
  congrArg symbols (ofText source).after_length_drain.symm

end LogicLexer.Scanner
