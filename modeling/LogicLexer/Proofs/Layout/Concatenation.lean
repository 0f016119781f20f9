import LogicLexer.Proofs.Layout.Coverage
import LogicLexer.Proofs.SymbolTable.Growth

/-!
# Texts in a row

Two texts are scanned in a row as they are scanned apart, where no token is split by the cut between
them: the tokens of the first, then those of the second, moved behind the first text, with the names
of both texts in one table (`tokenize_append`).

Layouts carry the proof. A layout that is cut between its lexemes is one layout behind another
(`IsValid.exists_append_of_cut`), since a lexeme that ends at a text ends at each front of it. The
second layout has the same tokens in any place and with any names before it, but for its spans and
indices (`map_move?_tokens`); an index is renamed by way of the name that it stands for, and names
stay where they are while a table grows.
-/

namespace LogicLexer

open Text

/-- The span so many bytes further on. -/
def Span.shift (distance : Nat) (s : Span) : Span :=
  ⟨distance + s.start, distance + s.stop⟩

/-- The value by another table: an identifier is the same name there, and all else stays. -/
def Value.rename? (old new : SymbolTable) : Value → Option Value
  | identifier index => ((old.name? index).bind new.get?).map identifier
  | v => some v

/-- The token so many bytes further on, by another table. -/
def Token.move? (distance : Nat) (old new : SymbolTable) (t : Token) : Option Token :=
  (t.value.rename? old new).map fun v => ⟨v, t.span.shift distance⟩

/-- No token of two texts in a row holds characters of both. -/
def CutsNoToken (a b : String) : Prop :=
  ∀ t ∈ (tokenize (a ++ b)).1,
    ¬ (t.span.start < a.utf8ByteSize ∧ a.utf8ByteSize < t.span.stop)

/-- A span of a text covers the same behind another text. -/
theorem Span.textIn?_shift {s : Span} {b w : String} (h : s.textIn? b = some w) (a : String) :
    (s.shift a.utf8ByteSize).textIn? (a ++ b) = some w := by
  obtain ⟨before, after, htext, hstart, hstop⟩ := textIn?_eq_some_iff.1 h
  refine textIn?_eq_some_iff.2 ⟨a.toList ++ before, after, ?_, ?_, ?_⟩
  · rw [String.toList_append, ← htext, List.append_assoc, List.append_assoc, List.append_assoc]
  · rw [byteLength_append, byteLength_toList, hstart]
    rfl
  · rw [byteLength_append, byteLength_toList, Nat.add_assoc, hstop]
    rfl

/-- A lexeme stands for the same value in any table, up to the index of its name. -/
theorem Lexeme.rename?_value (l : Lexeme) {s t old new : SymbolTable}
    (hold : (l.value s).2.names <+: old.names) (hnew : (l.value t).2.names <+: new.names) :
    (l.value s).1.rename? old new = some (l.value t).1 := by
  cases l with
  | identifier name =>
    have hs := SymbolTable.get?_of_isPrefix hold (SymbolTable.get?_intern s (String.ofList name))
    have ht := SymbolTable.get?_of_isPrefix hnew (SymbolTable.get?_intern t (String.ofList name))
    rw [SymbolTable.get?_eq_some_iff] at hs
    show ((old.name? (s.intern (String.ofList name)).1).bind new.get?).map Value.identifier = _
    rw [hs, Option.bind_some, ht]
    rfl
  | integer negative digits =>
    show (integerValue negative digits).rename? old new = some (integerValue negative digits)
    unfold integerValue
    dsimp only
    split <;> split <;> rfl
  | _ => rfl

namespace Layout

/-! ## One layout behind another -/

/-- The layout with more blanks in front. -/
def prepend (front : List Char) : Layout → Layout
  | done blanks => done (front ++ blanks)
  | piece blanks lexeme rest => piece (front ++ blanks) lexeme rest

/-- A layout behind another one, with the blanks at their border taken together. -/
def append : Layout → Layout → Layout
  | done blanks, M => M.prepend blanks
  | piece blanks lexeme rest, M => piece blanks lexeme (rest.append M)

/-- No blanks in front change nothing. -/
theorem prepend_nil (M : Layout) : M.prepend [] = M := by
  cases M <;> rfl

/-- Blanks in front only move the tokens. -/
theorem tokens_prepend (front : List Char) (M : Layout) (position : Nat) (table : SymbolTable) :
    (M.prepend front).tokens position table = M.tokens (position + byteLength front) table := by
  cases M with
  | done bs => rfl
  | piece bs lexeme rest =>
    rw [prepend, tokens, tokens, byteLength_append, ← Nat.add_assoc]

/-- Blanks in front bring no names. -/
theorem symbols_prepend (front : List Char) (M : Layout) (table : SymbolTable) :
    (M.prepend front).symbols table = M.symbols table := by
  cases M <;> rfl

/-- The tokens of a layout come before those of the layout behind it. -/
theorem tokens_append (L M : Layout) (position : Nat) (table : SymbolTable) :
    (L.append M).tokens position table =
      L.tokens position table ++ M.tokens (position + byteLength L.text) (L.symbols table) := by
  induction L generalizing position table with
  | done bs => exact tokens_prepend bs M position table
  | piece bs lexeme rest ih =>
    have hstop : position + byteLength (piece bs lexeme rest).text =
        position + byteLength bs + byteLength lexeme.text + byteLength rest.text := by
      rw [byteLength_text_piece]
      omega
    rw [append, tokens, ih, tokens, List.cons_append, symbols, hstop]

/-- The names of a layout come before those of the layout behind it. -/
theorem symbols_append (L M : Layout) (table : SymbolTable) :
    (L.append M).symbols table = M.symbols (L.symbols table) := by
  induction L generalizing table with
  | done bs => exact symbols_prepend bs M table
  | piece bs lexeme rest ih => exact ih _

/-- A cut that splits no lexeme cuts a layout in two. -/
theorem IsValid.exists_append_of_cut {K : Layout} (hK : K.IsValid) {xs ys : List Char}
    (htext : K.text = xs ++ ys) (position : Nat)
    (hcut : ∀ s ∈ K.spans position,
      ¬ (s.start < position + byteLength xs ∧ position + byteLength xs < s.stop)) :
    ∃ L M : Layout, L.IsValid ∧ M.IsValid ∧ L.text = xs ∧ M.text = ys ∧ L.append M = K := by
  induction hK generalizing xs position with
  | @done bs hblanks =>
    obtain rfl : bs = xs ++ ys := htext
    obtain ⟨hxs, hys⟩ := List.forall_mem_append.1 hblanks
    exact ⟨.done xs, .done ys, .done hxs, .done hys, rfl, rfl, rfl⟩
  | @piece bs lexeme rest hblanks hlexeme hends hrest ih =>
    rw [text, List.append_assoc] at htext
    rcases List.append_eq_append_iff.1 htext with ⟨inside, rfl, hback⟩ | ⟨inside, rfl, rfl⟩
    case inr =>
      -- The cut is among the blanks.
      obtain ⟨hxs, hinside⟩ := List.forall_mem_append.1 hblanks
      refine ⟨.done xs, .piece inside lexeme rest, .done hxs, .piece hinside hlexeme hends hrest,
        rfl, ?_, rfl⟩
      rw [text, List.append_assoc]
    rcases List.append_eq_append_iff.1 hback with ⟨front, rfl, hrest_text⟩ | ⟨back, hsplit, rfl⟩
    · -- The cut is behind the lexeme.
      obtain ⟨L, M, hL, hM, rfl, rfl, rfl⟩ := ih hrest_text
        (position + byteLength bs + byteLength lexeme.text) (by
          intro s hs
          have hs := hcut s (List.mem_cons_of_mem _ hs)
          rw [byteLength_append, byteLength_append] at hs
          omega)
      rw [hrest_text] at hends
      refine ⟨.piece bs lexeme L, M, .piece hblanks hlexeme hends.of_append hL, hM, ?_, rfl, rfl⟩
      rw [text, List.append_assoc]
    · -- The cut is at one end of the lexeme, which is not split.
      have hfirst := hcut _ List.mem_cons_self
      rw [hsplit, byteLength_append, byteLength_append] at hfirst
      have hnone : ∀ c ∈ ([] : List Char), isWhiteSpace c = true := List.forall_mem_nil _
      have hend : inside = [] ∨ back = [] := by
        rw [← byteLength_eq_zero_iff, ← byteLength_eq_zero_iff]
        dsimp only at hfirst
        omega
      rcases hend with rfl | rfl
      · refine ⟨.done bs, .piece [] lexeme rest, .done hblanks,
          .piece hnone hlexeme hends hrest, (List.append_nil bs).symm, ?_, ?_⟩
        · rw [text, hsplit]
          rfl
        · rw [append, prepend, List.append_nil]
      · rw [List.append_nil] at hsplit
        refine ⟨.piece bs lexeme (.done []), rest,
          .piece hblanks hlexeme lexeme.endsAt_nil (.done hnone), hrest, ?_, rfl, ?_⟩
        · rw [text, hsplit, text, List.append_nil]
        · rw [append, append, prepend_nil]

/-- No token is split exactly where no lexeme of the layout is. -/
theorem cutsNoToken_iff {a b : String} :
    CutsNoToken a b ↔ ∀ s ∈ (ofText (a ++ b).toList).spans 0,
      ¬ (s.start < a.utf8ByteSize ∧ a.utf8ByteSize < s.stop) := by
  rw [← map_span_tokenize, List.forall_mem_map]
  rfl

/-- Where no token is split, the two texts are laid out as they are apart. -/
theorem ofText_append_of_cut {a b : String} (h : CutsNoToken a b) :
    ofText (a ++ b).toList = (ofText a.toList).append (ofText b.toList) := by
  have hcut := cutsNoToken_iff.1 h
  rw [← byteLength_toList, ← Nat.zero_add (byteLength a.toList)] at hcut
  obtain ⟨L, M, hL, hM, ha, hb, hK⟩ := (isValid_ofText (a ++ b).toList).exists_append_of_cut
    ((text_ofText _).trans String.toList_append) 0 hcut
  rw [hL.eq_ofText ha, hM.eq_ofText hb, hK]

/-- A cut beside a blank splits no token, since a lexeme holds no blank. -/
theorem cutsNoToken_of_blank {a b : String}
    (h : (a.toList.getLast?.any isWhiteSpace || b.toList.head?.any isWhiteSpace) = true) :
    CutsNoToken a b := by
  refine cutsNoToken_iff.2 fun s hs ⟨hstart, hstop⟩ => ?_
  obtain ⟨l, hl, hcovers⟩ := (ofText (a ++ b).toList).exists_mem_lexemes (text_ofText _) hs
  have hblank := ((isValid_ofText (a ++ b).toList).isValid_of_mem_lexemes hl).isWhiteSpace_of_mem
  obtain ⟨before, after, htext, hbefore, hlength⟩ := Span.textIn?_eq_some_iff.1 hcovers
  rw [String.toList_ofList, String.toList_append, List.append_assoc] at htext
  rw [String.toList_ofList] at hlength
  rw [← byteLength_toList] at hstart hstop
  -- The lexeme is the end of the first text and the front of the second.
  obtain ⟨x, ha, hrest⟩ := exists_append_of_byteLength_le htext (by omega)
  rw [ha, byteLength_append] at hstart hstop
  obtain ⟨y, hsplit, hb⟩ := exists_append_of_byteLength_le hrest.symm (by omega)
  rw [hsplit, byteLength_append] at hlength
  rw [hsplit] at hblank
  have hx : x ≠ [] := fun hnil => by
    rw [hnil, byteLength_nil] at hstart
    omega
  have hy : y ≠ [] := fun hnil => by
    rw [hnil, byteLength_nil] at hlength
    omega
  have hlast : a.toList.getLast?.any isWhiteSpace = false := by
    rw [ha, List.getLast?_append, List.getLast?_eq_some_getLast hx, Option.some_or]
    exact hblank _ (List.mem_append_left _ (List.getLast_mem hx))
  have hfirst : b.toList.head?.any isWhiteSpace = false := by
    rw [hb, List.head?_append, List.head?_eq_some_head hy, Option.some_or]
    exact hblank _ (List.mem_append_right _ (List.head_mem hy))
  rw [hlast, hfirst] at h
  exact Bool.false_ne_true h

/-! ## The same layout elsewhere -/

/-- A layout only adds names. -/
theorem names_isPrefix_symbols (L : Layout) (table : SymbolTable) :
    table.names <+: (L.symbols table).names := by
  induction L generalizing table with
  | done bs => exact List.prefix_rfl
  | piece bs lexeme rest ih =>
    refine List.IsPrefix.trans ?_ (ih _)
    rw [Lexeme.symbols_value]
    split
    · exact table.names_isPrefix_insert _
    · exact List.prefix_rfl

/-- The tokens of a layout are the same in any place and behind any names, up to their spans and
the indices of their names. -/
theorem map_move?_tokens (M : Layout) (distance position : Nat) (s t : SymbolTable)
    {old new : SymbolTable} (hold : (M.symbols s).names <+: old.names)
    (hnew : (M.symbols t).names <+: new.names) :
    (M.tokens position s).map (Token.move? distance old new) =
      (M.tokens (distance + position) t).map some := by
  induction M generalizing position s t with
  | done bs => rfl
  | piece bs lexeme rest ih =>
    -- The tables that renaming goes by start with those at the lexeme.
    have hs := (rest.names_isPrefix_symbols (lexeme.value s).2).trans hold
    have ht := (rest.names_isPrefix_symbols (lexeme.value t).2).trans hnew
    rw [tokens, tokens, List.map_cons, List.map_cons, ih _ _ _ hold hnew, Token.move?,
      lexeme.rename?_value hs ht]
    simp only [Nat.add_assoc]
    rfl

/-- Behind other names, a layout adds those of its own names that are new. -/
theorem names_symbols_of_names_eq (M : Layout) {s t : SymbolTable} {front : List String}
    (h : s.names = front ++ t.names.filter (· ∉ front)) :
    (M.symbols s).names = front ++ (M.symbols t).names.filter (· ∉ front) := by
  induction M generalizing s t with
  | done bs => exact h
  | piece bs lexeme rest ih =>
    refine ih ?_
    rw [Lexeme.symbols_value, Lexeme.symbols_value]
    split
    · exact SymbolTable.names_insert_of_names_eq h _
    · exact h

end Layout

/-- Where two texts are cut beside a blank, no token is split. Where no token is split, the tokens
of the two texts in a row are those of the first, and those of the second moved behind them by its
length, each with the text that it had. The names are those of the first text, and those of the
second that the first does not have. -/
theorem tokenize_append (a b : String) :
    ((a.toList.getLast?.any isWhiteSpace || b.toList.head?.any isWhiteSpace) = true →
      CutsNoToken a b) ∧
    (CutsNoToken a b →
      (∃ moved, (tokenize (a ++ b)).1 = (tokenize a).1 ++ moved ∧
        (tokenize b).1.map
          (Token.move? a.utf8ByteSize (tokenize b).2 (tokenize (a ++ b)).2) = moved.map some) ∧
      (∀ t ∈ (tokenize b).1, ∃ w, t.span.textIn? b = some w ∧
        (t.span.shift a.utf8ByteSize).textIn? (a ++ b) = some w) ∧
      (tokenize (a ++ b)).2.names =
        (tokenize a).2.names ++ (tokenize b).2.names.filter (· ∉ (tokenize a).2.names)) := by
  refine ⟨Layout.cutsNoToken_of_blank, fun hcut => ?_⟩
  have happend := Layout.ofText_append_of_cut hcut
  refine ⟨?_, fun t ht => ?_, ?_⟩
  · simp only [Layout.tokens_tokenize, Layout.symbols_tokenize]
    rw [happend, Layout.tokens_append, Layout.symbols_append, Layout.text_ofText,
      byteLength_toList, Nat.zero_add]
    exact ⟨_, rfl, Layout.map_move?_tokens _ _ 0 _ _ List.prefix_rfl List.prefix_rfl⟩
  · have hspan := List.mem_map_of_mem (f := Token.span) ht
    rw [Layout.map_span_tokenize] at hspan
    obtain ⟨l, -, hcovers⟩ := Layout.exists_mem_lexemes _ (Layout.text_ofText b.toList) hspan
    exact ⟨_, hcovers, Span.textIn?_shift hcovers a⟩
  · simp only [Layout.symbols_tokenize]
    rw [happend, Layout.symbols_append]
    refine Layout.names_symbols_of_names_eq _ ?_
    show _ = _ ++ [].filter _
    rw [List.filter_nil, List.append_nil]

/-- Two texts that are cut at a blank and share a name. -/
theorem tokenize_append_at_blank :
    CutsNoToken "x " "y x" ∧
      ((∃ moved, (tokenize ("x " ++ "y x")).1 = (tokenize "x ").1 ++ moved ∧
          (tokenize "y x").1.map
            (Token.move? 2 (tokenize "y x").2 (tokenize ("x " ++ "y x")).2) = moved.map some) ∧
        (tokenize ("x " ++ "y x")).2.names =
          (tokenize "x ").2.names ++ (tokenize "y x").2.names.filter
            (· ∉ (tokenize "x ").2.names)) := by
  have hcut := (tokenize_append "x " "y x").1 (by decide)
  obtain ⟨htokens, -, hnames⟩ := (tokenize_append "x " "y x").2 hcut
  exact ⟨hcut, htokens, hnames⟩

end LogicLexer
