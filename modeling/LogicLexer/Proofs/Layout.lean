import LogicLexer.Proofs.Lexeme.Ending
import LogicLexer.Scanner

/-!
# Layouts of a text

A layout is a text taken apart: blanks, a lexeme, blanks, a lexeme, and so on, with blanks at the
end. Texts and valid layouts are the same thing: `ofText` takes a text apart, `text` puts it
together again, and they undo each other (`text_ofText`, `ofText_text`). A layout is valid where
every lexeme is well formed and ends at what stands behind it (`IsValid`), so a property of scanning
can be shown by changing the layout of a text and checking the ends of its lexemes.

The tokens of a text and its symbol table are read off the layout, with no scanner
(`drain_of_rest_eq`, `tokens_tokenize`).
-/

namespace LogicLexer

open Text

/-- A text as blanks and lexemes in turn. -/
inductive Layout where
  /-- Blanks and nothing behind them. -/
  | done (blanks : List Char)
  /-- Blanks, a lexeme, and what stands behind it. -/
  | piece (blanks : List Char) (lexeme : Lexeme) (rest : Layout)

namespace Layout

/-- The text that is laid out. -/
def text : Layout → List Char
  | done blanks => blanks
  | piece blanks lexeme rest => blanks ++ lexeme.text ++ rest.text

/-- The bytes of the blanks, of the lexeme and of what stands behind it add up. -/
theorem byteLength_text_piece (blanks : List Char) (lexeme : Lexeme) (rest : Layout) :
    byteLength (piece blanks lexeme rest).text =
      byteLength blanks + byteLength lexeme.text + byteLength rest.text := by
  rw [text, byteLength_append, byteLength_append]

/-- The blanks are blanks, and the lexemes are well formed and end where the next blanks or the next
lexeme start. -/
inductive IsValid : Layout → Prop
  /-- A text of blanks. -/
  | done {blanks : List Char} (hblanks : ∀ c ∈ blanks, isWhiteSpace c = true) :
      IsValid (done blanks)
  /-- A text that starts with blanks and a lexeme. -/
  | piece {blanks : List Char} {lexeme : Lexeme} {rest : Layout}
      (hblanks : ∀ c ∈ blanks, isWhiteSpace c = true) (hlexeme : lexeme.IsValid)
      (hends : lexeme.EndsAt rest.text) (hrest : rest.IsValid) : IsValid (piece blanks lexeme rest)

/-- The tokens of a layout that starts at a position of the text, with the names met before it. -/
def tokens (position : Nat) (symbols : SymbolTable) : Layout → List Token
  | done _ => []
  | piece blanks lexeme rest =>
    let start := position + byteLength blanks
    let stop := start + byteLength lexeme.text
    ⟨(lexeme.value symbols).1, ⟨start, stop⟩⟩ :: rest.tokens stop (lexeme.value symbols).2

/-- The names met before a layout, and those in it. -/
def symbols (table : SymbolTable) : Layout → SymbolTable
  | done _ => table
  | piece _ lexeme rest => rest.symbols (lexeme.value table).2

/-- Takes a text apart. -/
def ofText (cs : List Char) : Layout :=
  match h : cs.dropWhile isWhiteSpace with
  | [] => done cs
  | c :: ds =>
    have : (Lexeme.read c ds).2.length < cs.length := by
      have hread := Lexeme.length_read_lt c ds
      rw [← h] at hread
      exact Nat.lt_of_lt_of_le hread (List.dropWhile_suffix _).length_le
    piece (cs.takeWhile isWhiteSpace) (Lexeme.read c ds).1 (ofText (Lexeme.read c ds).2)
termination_by cs.length

/-- A text of blanks holds no lexeme. -/
theorem ofText_of_eq_nil {cs : List Char} (h : cs.dropWhile isWhiteSpace = []) :
    ofText cs = done cs := by
  unfold ofText
  split
  · rfl
  · simp_all

/-- Any other text starts with the lexeme behind its blanks. -/
theorem ofText_of_eq_cons {cs ds : List Char} {c : Char}
    (h : cs.dropWhile isWhiteSpace = c :: ds) :
    ofText cs = piece (cs.takeWhile isWhiteSpace) (Lexeme.read c ds).1
      (ofText (Lexeme.read c ds).2) := by
  rw [ofText]
  split
  · simp_all
  · rename_i d es hd
    obtain ⟨rfl, rfl⟩ := List.cons.inj (hd.symm.trans h)
    rfl

/-! ## Texts and valid layouts are the same -/

/-- What is taken apart can be put together. -/
theorem text_ofText (cs : List Char) : (ofText cs).text = cs := by
  fun_induction ofText cs with
  | case1 cs h => rfl
  | case2 cs c ds h hlt ih =>
    rw [text, ih, List.append_assoc, Lexeme.text_read_append, ← h, List.takeWhile_append_dropWhile]

/-- A text is taken apart into blanks and well-formed lexemes that end. -/
theorem isValid_ofText (cs : List Char) : (ofText cs).IsValid := by
  fun_induction ofText cs with
  | case1 cs h => exact .done (trimStart_eq_nil_iff.1 h)
  | case2 cs c ds h hlt ih =>
    have hblank : isWhiteSpace c = false := stops_cons.1 (h ▸ stops_dropWhile isWhiteSpace cs)
    obtain ⟨hvalid, hends⟩ := Lexeme.isValid_endsAt_read hblank ds
    rw [← text_ofText (Lexeme.read c ds).2] at hends
    exact .piece (fun d hd => of_mem_takeWhile hd) hvalid hends ih

/-- Behind blanks, a text starts with the text of a well-formed lexeme. -/
theorem exists_dropWhile_eq {blanks : List Char} {l : Lexeme}
    (hblanks : ∀ c ∈ blanks, isWhiteSpace c = true) (hl : l.IsValid) (rest : List Char) :
    ∃ c cs, (blanks ++ l.text ++ rest).dropWhile isWhiteSpace = c :: cs ∧
      (blanks ++ l.text ++ rest).takeWhile isWhiteSpace = blanks ∧
      isWhiteSpace c = false ∧ l.text ++ rest = c :: cs := by
  obtain ⟨c, cs, htext⟩ := List.exists_cons_of_ne_nil hl.text_ne_nil
  have hblank : isWhiteSpace c = false := hl.isWhiteSpace_of_mem c (by simp [htext])
  have hstop : Stops isWhiteSpace (l.text ++ rest) := by
    rw [htext]
    exact stops_cons.2 hblank
  refine ⟨c, cs ++ rest, ?_, ?_, hblank, by rw [htext, List.cons_append]⟩
  · rw [List.append_assoc, dropWhile_append_of_stops hblanks hstop, htext, List.cons_append]
  · rw [List.append_assoc, takeWhile_append_of_stops hblanks hstop]

/-- What is put together from a valid layout is taken apart into that layout. -/
theorem IsValid.ofText_text {L : Layout} (h : L.IsValid) : ofText L.text = L := by
  induction h with
  | done hblanks => exact ofText_of_eq_nil (trimStart_eq_nil_iff.2 hblanks)
  | piece hblanks hlexeme hends hrest ih =>
    obtain ⟨c, cs, hdrop, htake, -, hcons⟩ := exists_dropWhile_eq hblanks hlexeme _
    have hread := Lexeme.read_of_isValid hlexeme hends hcons
    rw [text, ofText_of_eq_cons hdrop, htake, hread, ih]

/-- A text has one valid layout. -/
theorem IsValid.eq_ofText {L : Layout} (h : L.IsValid) {cs : List Char} (htext : L.text = cs) :
    ofText cs = L := by
  rw [← htext, h.ofText_text]

/-! ## Scanning reads the layout -/

/-- In front of a lexeme the scanner hands out its token and stops behind it. -/
theorem next_of_rest_eq {s : Scanner} {blanks rest : List Char} {l : Lexeme}
    (hblanks : ∀ c ∈ blanks, isWhiteSpace c = true) (hl : l.IsValid) (hends : l.EndsAt rest)
    (h : s.rest = blanks ++ l.text ++ rest) :
    ∃ s', s.next =
        (some ⟨(l.value s.symbols).1, ⟨s.position + byteLength blanks,
          s.position + byteLength blanks + byteLength l.text⟩⟩, s') ∧
      s'.source = s.source ∧ s'.rest = rest ∧
      s'.position = s.position + byteLength blanks + byteLength l.text ∧
      s'.symbols = (l.value s.symbols).2 := by
  obtain ⟨c, cs, hdrop, htake, -, hcons⟩ := exists_dropWhile_eq hblanks hl rest
  have hread := Lexeme.read_of_isValid hl hends hcons
  rw [← h] at hdrop htake
  obtain rfl : (Lexeme.read c cs).1 = l := congrArg Prod.fst hread
  obtain rfl : (Lexeme.read c cs).2 = rest := congrArg Prod.snd hread
  have hposition : s.skipBlanks.position = s.position + byteLength blanks := by
    rw [← htake]
    rfl
  have hnext := Scanner.next_of_eq_cons hdrop
  rw [hposition] at hnext
  exact ⟨_, hnext, rfl, rfl, congrArg (· + _) hposition, rfl⟩

/-- The tokens from a scanner's place on are those of the layout of the text that is left, and the
scan ends at the end of the text with the names of the layout. -/
theorem drain_of_rest_eq {L : Layout} (hL : L.IsValid) {s : Scanner} (h : s.rest = L.text) :
    s.drain.1 = L.tokens s.position s.symbols ∧ s.drain.2.symbols = L.symbols s.symbols := by
  induction hL generalizing s with
  | done hblanks =>
    have hnil : s.rest.dropWhile isWhiteSpace = [] := by
      rw [h]
      exact trimStart_eq_nil_iff.2 hblanks
    have hnext := Scanner.next_of_eq_nil hnil
    rw [Scanner.drain_of_next_eq_none hnext]
    exact ⟨rfl, rfl⟩
  | piece hblanks hlexeme hends hrest ih =>
    obtain ⟨s', hnext, -, hs', hposition, hsymbols⟩ := next_of_rest_eq hblanks hlexeme hends h
    obtain ⟨htokens, hlast⟩ := ih hs'
    rw [Scanner.drain_of_next_eq_some hnext, htokens, hlast, hposition, hsymbols]
    exact ⟨rfl, rfl⟩

/-- The tokens of a text are those of its layout. -/
theorem tokens_tokenize (source : String) :
    (tokenize source).1 = (ofText source.toList).tokens 0 .empty :=
  (drain_of_rest_eq (s := .ofText source) (isValid_ofText source.toList)
    (text_ofText source.toList).symm).1

/-- The names of a text are those of its layout. -/
theorem symbols_tokenize (source : String) :
    (tokenize source).2 = (ofText source.toList).symbols .empty :=
  (drain_of_rest_eq (s := .ofText source) (isValid_ofText source.toList)
    (text_ofText source.toList).symm).2

end Layout

end LogicLexer
