import LogicLexer.Proofs.Layout.Coverage
import LogicLexer.Proofs.Lexeme.Grammar

/-!
# Texts that go on

What is added to a text changes none of its tokens but one that reaches the end of the text: that
one keeps its index and its start, and it may become longer (`tokenize_append_getElem?`).

The induction is on the layout of the text. A lexeme with something behind it ends there whatever is
added (`ofText_append_of_text_ne_nil`). The lexeme at the end of the text is a word that the longer
text goes on to, and reading takes the longest such word (`exists_ofText_append`).
-/

namespace LogicLexer

open Text

namespace Layout

/-- The first lexeme stays what it is where something stands behind it. -/
theorem ofText_append_of_text_ne_nil {blanks : List Char} {l : Lexeme} {rest : Layout}
    (h : (piece blanks l rest).IsValid) (hrest : rest.text ≠ []) (more : List Char) :
    ofText ((piece blanks l rest).text ++ more) = piece blanks l (ofText (rest.text ++ more)) := by
  obtain - | ⟨hblanks, hlexeme, hends, -⟩ := h
  have hvalid : (piece blanks l (ofText (rest.text ++ more))).IsValid := by
    refine .piece hblanks hlexeme ?_ (isValid_ofText _)
    rw [text_ofText]
    exact (l.endsAt_append_iff hrest).2 hends
  refine hvalid.eq_ofText ?_
  rw [text, text_ofText, text, List.append_assoc (blanks ++ l.text)]

/-- A text that starts with blanks and a word is read as these blanks and a lexeme that starts with
the word. -/
theorem exists_ofText_append {blanks : List Char} {l : Lexeme}
    (hblanks : ∀ c ∈ blanks, isWhiteSpace c = true) (hl : l.IsValid) (more : List Char) :
    ∃ m rest, ofText (blanks ++ l.text ++ more) = piece blanks m rest ∧ l.text <+: m.text := by
  obtain ⟨c, cs, hdrop, htake, hblank, hcons⟩ := exists_dropWhile_eq hblanks hl more
  obtain ⟨hfront, -, hlongest⟩ := Lexeme.isLongestFront_read hblank cs
  have hword : l.text <+: c :: cs := ⟨more, hcons⟩
  have hle := hlongest l.text hword (Lexeme.mem_words_iff.2 ⟨l, hl, rfl⟩)
  refine ⟨(Lexeme.read c cs).1, ofText (Lexeme.read c cs).2, ?_, ?_⟩
  · rw [ofText_of_eq_cons hdrop, htake]
  · exact List.prefix_of_prefix_length_le hword hfront hle

/-- Only the empty layout has no text. -/
theorem IsValid.eq_done {L : Layout} (h : L.IsValid) (htext : L.text = []) :
    L = Layout.done [] := by
  rw [← h.eq_ofText htext]
  exact ofText_of_eq_nil rfl

/-- As a text goes on, each of its tokens keeps its index and its start, none becomes shorter, and
those that end before the end of the text stay as they are. -/
theorem IsValid.exists_getElem?_tokens {L : Layout} (h : L.IsValid) (more : List Char)
    (position : Nat) (table : SymbolTable) {i : Nat} {t : Token}
    (ht : (L.tokens position table)[i]? = some t) :
    ∃ u, ((ofText (L.text ++ more)).tokens position table)[i]? = some u ∧
      u.span.start = t.span.start ∧ t.span.stop ≤ u.span.stop ∧
      (t.span.stop < position + byteLength L.text → u = t) := by
  induction h generalizing position table i with
  | done hblanks => exact absurd ht (by simp [tokens])
  | @piece bs l rest hblanks hlexeme hends hrest ih =>
    have hlength := byteLength_text_piece bs l rest
    by_cases hnil : rest.text = []
    · -- The lexeme stands at the end of the text, and its token is the only one.
      obtain rfl := hrest.eq_done hnil
      obtain ⟨m, rest, hlayout, ⟨longer, hm⟩⟩ := exists_ofText_append hblanks hlexeme more
      rw [text, hnil, List.append_nil, hlayout]
      cases i with
      | succ i => exact absurd ht (by simp [tokens])
      | zero =>
        obtain rfl := Option.some.inj ht
        refine ⟨_, rfl, rfl, ?_, fun hstop => ?_⟩
        · rw [← hm, byteLength_append]
          dsimp only
          omega
        · rw [byteLength_append] at hstop
          dsimp only at hstop
          omega
    · -- The first token stays, and the others are those of a shorter layout.
      rw [ofText_append_of_text_ne_nil (.piece hblanks hlexeme hends hrest) hnil more, tokens]
      cases i with
      | zero =>
        obtain rfl := Option.some.inj ht
        exact ⟨_, rfl, rfl, Nat.le_refl _, fun _ => rfl⟩
      | succ i =>
        obtain ⟨u, hu, hstart, hstop, hsame⟩ := ih _ _ ht
        refine ⟨u, hu, hstart, hstop, fun hlt => hsame ?_⟩
        omega

/-- A span with another one behind it ends before the end of the text. -/
theorem IsValid.stop_lt {L : Layout} (h : L.IsValid) {position i : Nat} {s : Span}
    (hs : (L.spans position)[i]? = some s) (hi : i + 1 < (L.spans position).length) :
    s.stop < position + byteLength L.text := by
  obtain ⟨hlt, rfl⟩ := List.getElem?_eq_some_iff.1 hs
  have hnext := List.pairwise_iff_getElem.1 (h.pairwise_spans position) i (i + 1) hlt hi
    (Nat.lt_succ_self i)
  obtain ⟨-, hproper, hstop⟩ := h.bounds_of_mem_spans (List.getElem_mem hi)
  omega

/-- A token of a text ends before the end of the text, unless it is the last one and ends there. -/
theorem stop_lt_of_getElem?_tokenize {a : String} {i : Nat} {t : Token}
    (ht : (tokenize a).1[i]? = some t)
    (hnot : ¬ (i + 1 = (tokenize a).1.length ∧ t.span.stop = a.utf8ByteSize)) :
    t.span.stop < a.utf8ByteSize := by
  have hvalid := isValid_ofText a.toList
  have hsize : 0 + byteLength (ofText a.toList).text = a.utf8ByteSize := by
    rw [text_ofText, byteLength_toList, Nat.zero_add]
  have hspan : ((ofText a.toList).spans 0)[i]? = some t.span := by
    rw [← map_span_tokenize, List.getElem?_map, ht, Option.map_some]
  have hcount : (tokenize a).1.length = ((ofText a.toList).spans 0).length := by
    rw [← map_span_tokenize, List.length_map]
  rw [hcount] at hnot
  obtain ⟨-, -, hle⟩ := hvalid.bounds_of_mem_spans (List.mem_of_getElem? hspan)
  rw [hsize] at hle
  by_cases hlast : i + 1 = ((ofText a.toList).spans 0).length
  · have hstop : t.span.stop ≠ a.utf8ByteSize := fun hstop => hnot ⟨hlast, hstop⟩
    omega
  · have hi := (List.getElem?_eq_some_iff.1 hspan).1
    have hlt := hvalid.stop_lt hspan (by omega)
    omega

end Layout

/-- Each token of a text stands at its index, as it is, however the text goes on; only a last token
that ends at the end of the text may change, and then it starts where it did and is not shorter. -/
theorem tokenize_append_getElem? (a b : String) {i : Nat} {t : Token}
    (ht : (tokenize a).1[i]? = some t) :
    (¬ (i + 1 = (tokenize a).1.length ∧ t.span.stop = a.utf8ByteSize) →
      (tokenize (a ++ b)).1[i]? = some t) ∧
    (i + 1 = (tokenize a).1.length ∧ t.span.stop = a.utf8ByteSize →
      ∃ u, (tokenize (a ++ b)).1[i]? = some u ∧ u.span.start = t.span.start ∧
        a.utf8ByteSize ≤ u.span.stop) := by
  obtain ⟨u, hu, hstart, hstop, hsame⟩ :
      ∃ u, (tokenize (a ++ b)).1[i]? = some u ∧ u.span.start = t.span.start ∧
        t.span.stop ≤ u.span.stop ∧ (t.span.stop < a.utf8ByteSize → u = t) := by
    rw [Layout.tokens_tokenize] at ht ⊢
    have h := (Layout.isValid_ofText a.toList).exists_getElem?_tokens b.toList 0 .empty ht
    rwa [Layout.text_ofText, byteLength_toList, Nat.zero_add, ← String.toList_append] at h
  constructor
  · intro hnot
    rw [hu, hsame (Layout.stop_lt_of_getElem?_tokenize ht hnot)]
  · rintro ⟨-, hend⟩
    exact ⟨u, hu, hstart, hend ▸ hstop⟩

/-- A minus sign at the end of a text becomes a number, and the name in front of it stays. -/
theorem tokenize_append_getElem?_minus :
    (tokenize "x -").1 = [⟨.identifier 0, ⟨0, 1⟩⟩, ⟨.error "-" .unrecognisedSymbol, ⟨2, 3⟩⟩] ∧
      (tokenize ("x -" ++ "1")).1[0]? = some ⟨.identifier 0, ⟨0, 1⟩⟩ ∧
      ∃ u, (tokenize ("x -" ++ "1")).1[1]? = some u ∧ u.span.start = 2 ∧ 3 ≤ u.span.stop := by
  have htokens : (tokenize "x -").1 =
      [⟨.identifier 0, ⟨0, 1⟩⟩, ⟨.error "-" .unrecognisedSymbol, ⟨2, 3⟩⟩] := by
    decide +kernel
  have hfirst : (tokenize "x -").1[0]? = some ⟨.identifier 0, ⟨0, 1⟩⟩ := by
    rw [htokens]
    rfl
  have hlast : (tokenize "x -").1[1]? =
      some ⟨.error "-" .unrecognisedSymbol, ⟨2, 3⟩⟩ := by
    rw [htokens]
    rfl
  refine ⟨htokens, (tokenize_append_getElem? "x -" "1" hfirst).1 ?_,
    (tokenize_append_getElem? "x -" "1" hlast).2 ?_⟩
  · rw [htokens]
    decide
  · rw [htokens]
    decide

end LogicLexer
