import LogicLexer.Proofs.Layout
import LogicLexer.Proofs.Slice
import Mathlib.Logic.ExistsUnique

/-!
# Tokens cover all that is not blank

The spans of the tokens of a text and the gaps between them cut the text into blanks and lexemes in
turn. Nothing is lost and nothing is read twice: gaps and lexemes in turn are the text, the gaps
hold only blanks, the lexemes hold none, and so every character that is no blank lies in just one
span (`tokenize_covers`).

A layout knows its blanks, its lexemes and their spans. What its spans and the gaps between them
cover does not depend on the text in front of the layout (`map_textIn?_gaps_spans`), and this
carries the induction.
-/

namespace LogicLexer

open Text

/-- The gaps between and around spans of a text, from an offset up to the end. -/
def Span.gaps (stop : Nat) : Nat → List Span → List Span
  | start, [] => [⟨start, stop⟩]
  | start, s :: ss => ⟨start, s.start⟩ :: gaps stop s.stop ss

/-- The members of two lists in turn, and what one of them has left. -/
def weave {α : Type} : List α → List α → List α
  | x :: xs, y :: ys => x :: y :: weave xs ys
  | xs, [] => xs
  | [], ys => ys

namespace Layout

/-- The spans of the lexemes of a layout that starts at a position of the text. -/
def spans (position : Nat) : Layout → List Span
  | done _ => []
  | piece blanks lexeme rest =>
    let start := position + byteLength blanks
    let stop := start + byteLength lexeme.text
    ⟨start, stop⟩ :: rest.spans stop

/-- The blanks in front of the lexemes, and those at the end. -/
def blanks : Layout → List (List Char)
  | done blanks => [blanks]
  | piece blanks _ rest => blanks :: rest.blanks

/-- The lexemes. -/
def lexemes : Layout → List Lexeme
  | done _ => []
  | piece _ lexeme rest => lexeme :: rest.lexemes

/-- The spans of the tokens do not depend on the names. -/
theorem map_span_tokens (L : Layout) (position : Nat) (table : SymbolTable) :
    (L.tokens position table).map Token.span = L.spans position := by
  induction L generalizing position table with
  | done bs => rfl
  | piece bs lexeme rest ih =>
    rw [tokens, List.map_cons, ih]
    rfl

/-- The spans of the tokens of a text are those of its layout. -/
theorem map_span_tokenize (source : String) :
    (tokenize source).1.map Token.span = (ofText source.toList).spans 0 := by
  rw [tokens_tokenize, map_span_tokens]

/-- Blanks and lexemes in turn are the text. -/
theorem flatten_weave (L : Layout) :
    (weave L.blanks (L.lexemes.map Lexeme.text)).flatten = L.text := by
  induction L with
  | done bs => exact List.flatten_singleton
  | piece bs lexeme rest ih =>
    rw [blanks, lexemes, List.map_cons, weave, List.flatten_cons, List.flatten_cons, ih, text,
      List.append_assoc]

/-- Between the lexemes of a valid layout there are only blanks. -/
theorem IsValid.isWhiteSpace_of_mem_blanks {L : Layout} (h : L.IsValid) {part : List Char}
    (hpart : part ∈ L.blanks) : ∀ c ∈ part, isWhiteSpace c = true := by
  induction h with
  | done hblanks => rwa [List.mem_singleton.1 hpart]
  | piece hblanks hlexeme hends hrest ih =>
    rcases List.mem_cons.1 hpart with rfl | hpart
    · exact hblanks
    · exact ih hpart

/-- The lexemes of a valid layout are well formed. -/
theorem IsValid.isValid_of_mem_lexemes {L : Layout} (h : L.IsValid) {l : Lexeme}
    (hl : l ∈ L.lexemes) : l.IsValid := by
  induction h with
  | done hblanks => exact absurd hl List.not_mem_nil
  | piece hblanks hlexeme hends hrest ih =>
    rcases List.mem_cons.1 hl with rfl | hl
    · exact hlexeme
    · exact ih hl

/-- A span of a text covers the part that stands there. -/
theorem textIn?_part {source : String} (before part after : List Char)
    (h : before ++ (part ++ after) = source.toList) :
    (Span.mk (byteLength before) (byteLength before + byteLength part)).textIn? source =
      some (String.ofList part) := by
  refine Span.textIn?_eq_some_iff.2 ⟨before, after, ?_, rfl, ?_⟩
  · rw [String.toList_ofList, List.append_assoc, h]
  · rw [String.toList_ofList]

/-- In a text, the gaps of a layout cover its blanks, and the spans cover its lexemes. -/
theorem map_textIn?_gaps_spans (L : Layout) {source : String} (before : List Char)
    (h : before ++ L.text = source.toList) :
    (Span.gaps source.utf8ByteSize (byteLength before) (L.spans (byteLength before))).map
        (·.textIn? source) = L.blanks.map (fun part => some (String.ofList part)) ∧
      (L.spans (byteLength before)).map (·.textIn? source) =
        L.lexemes.map (fun l => some (String.ofList l.text)) := by
  induction L generalizing before with
  | done bs =>
    have hall := textIn?_part before bs [] ((List.append_nil bs).symm ▸ h)
    have hstop : source.utf8ByteSize = byteLength before + byteLength bs := by
      rw [← byteLength_toList, ← h, text, byteLength_append]
    exact ⟨congrArg (fun x => [x]) (hstop ▸ hall), rfl⟩
  | piece bs lexeme rest ih =>
    rw [text, List.append_assoc] at h
    -- For the rest, the blanks and the lexeme stand in front as well.
    have hblanks := textIn?_part before bs _ h
    have hlexeme := textIn?_part (before ++ bs) lexeme.text _ (by rw [List.append_assoc, h])
    obtain ⟨hgaps, hspans⟩ := ih (before ++ bs ++ lexeme.text) (by
      rw [← h, List.append_assoc, List.append_assoc])
    simp only [byteLength_append] at hlexeme hgaps hspans
    constructor
    · rw [spans, Span.gaps, List.map_cons, hblanks, hgaps]
      rfl
    · rw [spans, List.map_cons, hlexeme, hspans]
      rfl

/-- Each span covers one of the lexemes. -/
theorem exists_mem_lexemes (L : Layout) {source : String} (h : L.text = source.toList) {s : Span}
    (hs : s ∈ L.spans 0) : ∃ l ∈ L.lexemes, s.textIn? source = some (String.ofList l.text) := by
  obtain ⟨-, hspans⟩ := L.map_textIn?_gaps_spans [] h
  have hmem := List.mem_map_of_mem (f := (·.textIn? source)) hs
  rw [← byteLength_nil, hspans] at hmem
  obtain ⟨l, hl, htext⟩ := List.mem_map.1 hmem
  exact ⟨l, hl, htext.symm⟩

/-- Each token stands for one of the lexemes, where that is in the text. -/
theorem exists_of_mem_tokens (L : Layout) {position : Nat} {table : SymbolTable} {t : Token}
    (ht : t ∈ L.tokens position table) :
    ∃ (before after : List Char) (l : Lexeme) (learnt : SymbolTable), l ∈ L.lexemes ∧
      before ++ l.text ++ after = L.text ∧ t.value = (l.value learnt).1 ∧
      t.span =
        ⟨position + byteLength before, position + byteLength before + byteLength l.text⟩ := by
  induction L generalizing position table with
  | done bs => exact absurd ht List.not_mem_nil
  | piece bs lexeme rest ih =>
    rcases List.mem_cons.1 ht with rfl | ht
    · exact ⟨bs, rest.text, lexeme, table, List.mem_cons_self, rfl, rfl, rfl⟩
    · obtain ⟨before, after, l, learnt, hl, htext, hvalue, hspan⟩ := ih ht
      refine ⟨bs ++ lexeme.text ++ before, after, l, learnt, List.mem_cons_of_mem _ hl, ?_,
        hvalue, ?_⟩
      · rw [text, ← htext]
        simp only [List.append_assoc]
      · rw [hspan, byteLength_append, byteLength_append]
        simp only [Nat.add_assoc]

/-- Each token of a text stands for a well-formed lexeme, where that is in the text. -/
theorem exists_lexeme_of_mem_tokenize {source : String} {t : Token}
    (ht : t ∈ (tokenize source).1) :
    ∃ (before after : List Char) (l : Lexeme) (learnt : SymbolTable), l.IsValid ∧
      before ++ l.text ++ after = source.toList ∧ t.value = (l.value learnt).1 ∧
      t.span = ⟨byteLength before, byteLength before + byteLength l.text⟩ := by
  rw [tokens_tokenize] at ht
  obtain ⟨before, after, l, learnt, hl, htext, hvalue, hspan⟩ := exists_of_mem_tokens _ ht
  rw [Nat.zero_add] at hspan
  exact ⟨before, after, l, learnt, (isValid_ofText source.toList).isValid_of_mem_lexemes hl,
    htext.trans (text_ofText _), hvalue, hspan⟩

/-- The spans of a layout lie in its text and are not empty. -/
theorem IsValid.bounds_of_mem_spans {L : Layout} (h : L.IsValid) {position : Nat} {s : Span}
    (hs : s ∈ L.spans position) :
    position ≤ s.start ∧ s.start < s.stop ∧ s.stop ≤ position + byteLength L.text := by
  induction h generalizing position with
  | done hblanks => exact absurd hs List.not_mem_nil
  | @piece bs lexeme rest hblanks hlexeme hends hrest ih =>
    have hlength := byteLength_text_piece bs lexeme rest
    rcases List.mem_cons.1 hs with rfl | hs
    · have hpos : byteLength lexeme.text ≠ 0 := fun h0 =>
        hlexeme.text_ne_nil (byteLength_eq_zero_iff.1 h0)
      dsimp only
      omega
    · obtain ⟨hstart, hlt, hstop⟩ := ih hs
      omega

/-- The spans of a layout stand one behind the other. -/
theorem IsValid.pairwise_spans {L : Layout} (h : L.IsValid) (position : Nat) :
    (L.spans position).Pairwise fun s t => s.stop ≤ t.start := by
  induction h generalizing position with
  | done hblanks => exact List.Pairwise.nil
  | piece hblanks hlexeme hends hrest ih =>
    exact List.Pairwise.cons (fun s hs => (hrest.bounds_of_mem_spans hs).1) (ih _)

/-- A character of two texts in a row stands in the first one or in the second one. -/
theorem append_eq_append_cons {xs ys before after : List Char} {c : Char}
    (h : xs ++ ys = before ++ c :: after) :
    (∃ inside, xs = before ++ c :: inside) ∨
      ∃ inside, before = xs ++ inside ∧ ys = inside ++ c :: after := by
  rcases List.append_eq_append_iff.1 h with ⟨inside, hbefore, hys⟩ | ⟨inside, hxs, hback⟩
  · exact Or.inr ⟨inside, hbefore, hys⟩
  · cases inside with
    | nil => exact Or.inr ⟨[], by rw [hxs, List.append_nil, List.append_nil], hback.symm⟩
    | cons d ds =>
      obtain ⟨rfl, -⟩ := List.cons.inj hback
      exact Or.inl ⟨ds, hxs⟩

/-- A character that is no blank lies in one of the spans. -/
theorem IsValid.exists_mem_spans {L : Layout} (h : L.IsValid) (position : Nat)
    {before after : List Char} {c : Char} (htext : L.text = before ++ c :: after)
    (hc : isWhiteSpace c = false) :
    ∃ s ∈ L.spans position, s.start ≤ position + byteLength before ∧
      position + byteLength before + c.utf8Size ≤ s.stop := by
  have hfound : ∀ {bs : List Char}, (∀ d ∈ bs, isWhiteSpace d = true) → c ∉ bs :=
    fun hbs hmem => Bool.false_ne_true (hc.symm.trans (hbs c hmem))
  induction h generalizing position before with
  | done hblanks =>
    refine absurd ?_ (hfound hblanks)
    rw [text] at htext
    rw [htext]
    simp
  | @piece bs lexeme rest hblanks hlexeme hends hrest ih =>
    rw [text, List.append_assoc] at htext
    -- The character stands in the blanks, which it cannot, or in the lexeme, or behind it.
    rcases append_eq_append_cons htext with ⟨inside, hbs⟩ | ⟨front, rfl, hfront⟩
    · refine absurd ?_ (hfound hblanks)
      rw [hbs]
      simp
    rcases append_eq_append_cons hfront with ⟨inside, hlexeme_text⟩ | ⟨front, rfl, hback⟩
    · have hlength := congrArg byteLength hlexeme_text
      rw [byteLength_append, byteLength_cons] at hlength
      refine ⟨_, List.mem_cons_self, ?_, ?_⟩
      · rw [byteLength_append, ← Nat.add_assoc]
        exact Nat.le_add_right _ _
      · rw [byteLength_append, hlength]
        dsimp only
        omega
    · obtain ⟨s, hs, hstart, hstop⟩ :=
        ih (position + byteLength bs + byteLength lexeme.text) hback
      refine ⟨s, List.mem_cons_of_mem _ hs, ?_, ?_⟩
      · rw [byteLength_append, byteLength_append]
        omega
      · rw [byteLength_append, byteLength_append]
        omega

end Layout

/-- Both ends of a span that covers a part of a text lie between characters. -/
theorem Span.isBoundary_of_textIn? {s : Span} {source w : String} (h : s.textIn? source = some w) :
    IsBoundary source s.start ∧ IsBoundary source s.stop := by
  obtain ⟨before, after, htext, hstart, hstop⟩ := textIn?_eq_some_iff.1 h
  refine ⟨⟨before, w.toList ++ after, ?_, hstart⟩, ⟨before ++ w.toList, after, htext, ?_⟩⟩
  · rw [← htext, List.append_assoc]
  · rw [byteLength_append, hstop]

/-- In spans that stand one behind the other, a character lies in one at most. -/
theorem Span.index_unique {spans : List Span} (hspans : spans.Pairwise fun s t => s.stop ≤ t.start)
    {offset size : Nat} (hsize : 0 < size) {i j : Fin spans.length}
    (hi : spans[i].start ≤ offset ∧ offset + size ≤ spans[i].stop)
    (hj : spans[j].start ≤ offset ∧ offset + size ≤ spans[j].stop) : i = j := by
  -- Of two spans that both take the character in, the second one would start behind it.
  have hbehind : ∀ k l : Fin spans.length, k < l → spans[k].stop ≤ spans[l].start :=
    fun k l hkl => List.pairwise_iff_getElem.1 hspans k l k.isLt l.isLt hkl
  rcases Nat.lt_trichotomy i j with hij | hij | hij
  · have := hbehind i j hij
    omega
  · exact Fin.ext hij
  · have := hbehind j i hij
    omega

/-- Spans of a text that take in all of it but blanks, each character once. -/
structure Span.Covers (source : String) (spans : List Span) : Prop where
  /-- No span is empty, and each starts and stops between characters. -/
  proper : ∀ s ∈ spans, s.start < s.stop ∧ IsBoundary source s.start ∧ IsBoundary source s.stop
  /-- The spans stand one behind the other. -/
  ordered : spans.Pairwise fun s t => s.stop ≤ t.start
  /-- The spans hold no blank, the gaps around them nothing else, and gaps and spans in turn are the
  text. -/
  rebuilt : ∃ gaps lexemes : List String,
    (Span.gaps source.utf8ByteSize 0 spans).map (·.textIn? source) = gaps.map some ∧
    spans.map (·.textIn? source) = lexemes.map some ∧
    (∀ g ∈ gaps, ∀ c ∈ g.toList, isWhiteSpace c = true) ∧
    (∀ w ∈ lexemes, ∀ c ∈ w.toList, isWhiteSpace c = false) ∧
    String.join (weave gaps lexemes) = source
  /-- Each character that is no blank lies in just one of the spans. -/
  once : ∀ before c after, source.toList = before ++ c :: after → isWhiteSpace c = false →
    ∃! i : Fin spans.length, spans[i].start ≤ byteLength before ∧
      byteLength before + c.utf8Size ≤ spans[i].stop

/-- A function is applied to members in turn as to the members of each list. -/
theorem map_weave {α β : Type} (f : α → β) (xs ys : List α) :
    (weave xs ys).map f = weave (xs.map f) (ys.map f) := by
  induction xs generalizing ys with
  | nil => cases ys <;> rfl
  | cons x xs ih =>
    cases ys with
    | nil => rfl
    | cons y ys => rw [weave, List.map_cons, List.map_cons, ih, List.map_cons, List.map_cons, weave]

/-- Texts in turn are put together from the characters in turn. -/
theorem join_weave (xs ys : List (List Char)) :
    String.join (weave (xs.map String.ofList) (ys.map String.ofList)) =
      String.ofList (weave xs ys).flatten := by
  rw [← map_weave, ← String.toList_inj, String.toList_join, String.toList_ofList, List.flatMap_map]
  simp [List.flatMap_def]

/-- The spans of a valid layout cover its text. -/
theorem Layout.IsValid.covers {L : Layout} (h : L.IsValid) {source : String}
    (htext : L.text = source.toList) : Span.Covers source (L.spans 0) := by
  obtain ⟨hgaps, hlexemes⟩ := L.map_textIn?_gaps_spans [] htext
  rw [byteLength_nil] at hgaps hlexemes
  constructor
  case proper =>
    intro s hs
    obtain ⟨l, -, hl⟩ := L.exists_mem_lexemes htext hs
    exact ⟨(h.bounds_of_mem_spans hs).2.1, Span.isBoundary_of_textIn? hl⟩
  case ordered => exact h.pairwise_spans 0
  case rebuilt =>
    refine ⟨L.blanks.map String.ofList, (L.lexemes.map Lexeme.text).map String.ofList, ?_, ?_, ?_,
      ?_, ?_⟩
    · rw [hgaps, List.map_map]
      rfl
    · rw [hlexemes, List.map_map, List.map_map]
      rfl
    · intro g hg
      obtain ⟨part, hpart, rfl⟩ := List.mem_map.1 hg
      rw [String.toList_ofList]
      exact h.isWhiteSpace_of_mem_blanks hpart
    · intro w hw
      obtain ⟨part, hpart, rfl⟩ := List.mem_map.1 hw
      obtain ⟨l, hl, rfl⟩ := List.mem_map.1 hpart
      rw [String.toList_ofList]
      exact (h.isValid_of_mem_lexemes hl).isWhiteSpace_of_mem
    · rw [join_weave, L.flatten_weave, htext, String.ofList_toList]
  case once =>
    intro before c after hsource hc
    obtain ⟨s, hs, hstart, hstop⟩ := h.exists_mem_spans 0 (htext.trans hsource) hc
    rw [Nat.zero_add] at hstart hstop
    obtain ⟨i, hi, rfl⟩ := List.mem_iff_getElem.1 hs
    exact ⟨⟨i, hi⟩, ⟨hstart, hstop⟩, fun j hj =>
      Span.index_unique (h.pairwise_spans 0) c.utf8Size_pos hj ⟨hstart, hstop⟩⟩

/-- The spans of the tokens of a text cover it. -/
theorem tokenize_covers (source : String) :
    Span.Covers source ((tokenize source).1.map Token.span) := by
  rw [Layout.map_span_tokenize]
  exact (Layout.isValid_ofText source.toList).covers (Layout.text_ofText source.toList)

end LogicLexer
