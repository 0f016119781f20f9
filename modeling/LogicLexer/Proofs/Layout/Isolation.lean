import LogicLexer.Proofs.Layout.Concatenation
import LogicLexer.Proofs.Lexeme.Kind
import Mathlib.Data.List.Basic

/-!
# Errors stand alone

An error takes nothing from the tokens around it. When each of its bytes is overwritten with a
space, all other tokens of the text stay where they are and what they are, and the names keep their
indices (`tokenize_errorsBlanked`).

In the layout of the text, an erroneous lexeme becomes as many spaces as it has bytes, and so a part
of the blanks (`Layout.withoutErrors`). The lexeme in front of it ended at its first character and
now ends at a blank, and the next one starts behind it as before. An error brings no name, so the
table is the same at every token (`Layout.tokens_withoutErrors`).
-/

namespace LogicLexer

open Text

/-- The bytes of a text. -/
def Text.utf8Bytes (cs : List Char) : List UInt8 :=
  cs.flatMap String.utf8EncodeChar

/-- The bytes from an offset on, with a space in place of each one that is covered. -/
def Text.blankOut (covered : Nat → Bool) (start : Nat) (bytes : List UInt8) : List UInt8 :=
  bytes.mapIdx fun i b => if covered (start + i) then ' '.toUInt8 else b

namespace Text

/-- The bytes of two texts in a row. -/
theorem utf8Bytes_append (xs ys : List Char) :
    utf8Bytes (xs ++ ys) = utf8Bytes xs ++ utf8Bytes ys :=
  List.flatMap_append

/-- A text has as many bytes as its length says. -/
theorem length_utf8Bytes (cs : List Char) : (utf8Bytes cs).length = byteLength cs := by
  induction cs with
  | nil => rfl
  | cons c cs ih =>
    rw [utf8Bytes, List.flatMap_cons, List.length_append, String.length_utf8EncodeChar,
      byteLength_cons]
    exact congrArg (c.utf8Size + ·) ih

/-- A space is one byte. -/
theorem utf8Bytes_replicate_space (n : Nat) :
    utf8Bytes (List.replicate n ' ') = List.replicate n ' '.toUInt8 := by
  induction n with
  | zero => rfl
  | succ n ih =>
    have hspace : String.utf8EncodeChar ' ' = [' '.toUInt8] := by decide
    rw [List.replicate_succ, List.replicate_succ, utf8Bytes, List.flatMap_cons, hspace]
    exact congrArg (' '.toUInt8 :: ·) ih

/-- The bytes of a string are those of its characters. -/
theorem toList_data_toByteArray (s : String) : s.toByteArray.data.toList = utf8Bytes s.toList := by
  have hencode : s.toByteArray = s.toList.utf8Encode := by
    rw [← String.toByteArray_ofList, String.ofList_toList]
  rw [hencode, List.utf8Encode, List.data_toByteArray]
  rfl

/-- Bytes in a row are overwritten one part behind the other. -/
theorem blankOut_append (covered : Nat → Bool) (start : Nat) (xs ys : List UInt8) :
    blankOut covered start (xs ++ ys) =
      blankOut covered start xs ++ blankOut covered (start + xs.length) ys := by
  unfold blankOut
  rw [List.mapIdx_append]
  simp only [Nat.add_assoc, Nat.add_comm xs.length]

/-- Bytes that are not covered stay. -/
theorem blankOut_of_uncovered {covered : Nat → Bool} {start : Nat} {bytes : List UInt8}
    (h : ∀ i, start ≤ i → i < start + bytes.length → covered i = false) :
    blankOut covered start bytes = bytes := by
  refine List.ext_getElem (List.length_mapIdx ..) fun i hi hlt => ?_
  have hcovered := h (start + i) (Nat.le_add_right start i) (Nat.add_lt_add_left hlt start)
  simp [blankOut, hcovered]

/-- Bytes that are all covered become spaces. -/
theorem blankOut_of_covered {covered : Nat → Bool} {start : Nat} {bytes : List UInt8}
    (h : ∀ i, start ≤ i → i < start + bytes.length → covered i = true) :
    blankOut covered start bytes = List.replicate bytes.length ' '.toUInt8 := by
  refine List.ext_getElem (by simp [blankOut]) fun i hi hlt => ?_
  rw [List.length_replicate] at hlt
  have hcovered := h (start + i) (Nat.le_add_right start i) (Nat.add_lt_add_left hlt start)
  simp [blankOut, hcovered]

end Text

/-- Whether an offset lies in an error. -/
def inError (tokens : List Token) (offset : Nat) : Bool :=
  tokens.any fun t => t.isError && t.span.start ≤ offset && offset < t.span.stop

/-- What stands for a lexeme when errors are overwritten: spaces for an error, and the lexeme itself
if it is none. -/
def Lexeme.blanked (l : Lexeme) : List Char :=
  if l.kind = .error then List.replicate (byteLength l.text) ' ' else l.text

namespace Layout

/-- The layout with spaces in place of its errors. -/
def withoutErrors : Layout → Layout
  | done blanks => done blanks
  | piece blanks lexeme rest =>
    if lexeme.kind = .error then
      rest.withoutErrors.prepend (blanks ++ List.replicate (byteLength lexeme.text) ' ')
    else piece blanks lexeme rest.withoutErrors

/-- Blanks in front stand in front of the text. -/
theorem text_prepend (front : List Char) (M : Layout) :
    (M.prepend front).text = front ++ M.text := by
  cases M with
  | done bs => rfl
  | piece bs lexeme rest => simp only [prepend, text, List.append_assoc]

/-- Each lexeme is overwritten in its place. -/
theorem text_withoutErrors_piece (bs : List Char) (l : Lexeme) (rest : Layout) :
    (piece bs l rest).withoutErrors.text = bs ++ l.blanked ++ rest.withoutErrors.text := by
  rw [withoutErrors, Lexeme.blanked]
  split
  · exact text_prepend _ _
  · rfl

/-- Blanks may stand in front of every layout. -/
theorem IsValid.prepend {M : Layout} (h : M.IsValid) {front : List Char}
    (hfront : ∀ c ∈ front, isWhiteSpace c = true) : (M.prepend front).IsValid := by
  cases h with
  | done hblanks => exact .done (List.forall_mem_append.2 ⟨hfront, hblanks⟩)
  | piece hblanks hlexeme hends hrest =>
    exact .piece (List.forall_mem_append.2 ⟨hfront, hblanks⟩) hlexeme hends hrest

/-- Blanks and spaces are blanks. -/
theorem isWhiteSpace_of_mem_append_spaces {bs : List Char}
    (hbs : ∀ c ∈ bs, isWhiteSpace c = true) (n : Nat) :
    ∀ c ∈ bs ++ List.replicate n ' ', isWhiteSpace c = true := by
  refine List.forall_mem_append.2 ⟨hbs, fun c hc => ?_⟩
  obtain rfl := List.eq_of_mem_replicate hc
  decide

/-- Without its errors, a text starts with a blank or as it did before. -/
theorem IsValid.mem_head?_withoutErrors {L : Layout} (h : L.IsValid) {c : Char}
    (hc : c ∈ L.withoutErrors.text.head?) : c ∈ L.text.head? ∨ isWhiteSpace c = true := by
  cases h with
  | done hblanks => exact Or.inl hc
  | @piece bs lexeme rest hblanks hlexeme hends hrest =>
    rw [text_withoutErrors_piece, Lexeme.blanked] at hc
    split at hc
    · -- There is at least one space, and the blanks before it if there are any.
      have hlength : byteLength lexeme.text ≠ 0 := fun h0 =>
        hlexeme.text_ne_nil (byteLength_eq_zero_iff.1 h0)
      have hfront : bs ++ List.replicate (byteLength lexeme.text) ' ' ≠ [] := by
        simp [hlength]
      rw [List.head?_append_of_ne_nil _ hfront] at hc
      exact Or.inr (isWhiteSpace_of_mem_append_spaces hblanks _ c (List.mem_of_mem_head? hc))
    · have hfront : bs ++ lexeme.text ≠ [] := by
        simp [hlexeme.text_ne_nil]
      rw [List.head?_append_of_ne_nil _ hfront] at hc
      rw [text, List.head?_append_of_ne_nil _ hfront]
      exact Or.inl hc

/-- Spaces may stand in place of errors, since they end every lexeme. -/
theorem IsValid.withoutErrors {L : Layout} (h : L.IsValid) : L.withoutErrors.IsValid := by
  induction h with
  | done hblanks => exact .done hblanks
  | piece hblanks hlexeme hends hrest ih =>
    rw [Layout.withoutErrors]
    split
    · exact ih.prepend (isWhiteSpace_of_mem_append_spaces hblanks _)
    · exact .piece hblanks hlexeme (hends.of_head? fun c => hrest.mem_head?_withoutErrors) ih

/-- A lexeme is an error by every symbol table or by none. -/
theorem isError_value (l : Lexeme) (table : SymbolTable) (s : Span) :
    (Token.mk (l.value table).1 s).isError = (l.kind == .error) := by
  rw [Token.isError, Token.kind, l.kind_value]

/-- The tokens without the errors are the tokens that are none. -/
theorem tokens_withoutErrors (L : Layout) (position : Nat) (table : SymbolTable) :
    L.withoutErrors.tokens position table =
      (L.tokens position table).filter fun t => !t.isError := by
  induction L generalizing position table with
  | done bs => rfl
  | piece bs lexeme rest ih =>
    have herror := isError_value lexeme table
    rw [withoutErrors, tokens, List.filter_cons, herror]
    split
    case isTrue hkind =>
      -- The spaces are as long as the error, which leaves the table as it is.
      have hlength : byteLength (List.replicate (byteLength lexeme.text) ' ') =
          byteLength lexeme.text := by
        rw [← length_utf8Bytes, utf8Bytes_replicate_space, List.length_replicate]
      have hsymbols : (lexeme.value table).2 = table := by
        rw [lexeme.symbols_value_eq, Lexeme.name?_of_kind_eq_error hkind]
        rfl
      rw [tokens_prepend, byteLength_append, hlength, ← Nat.add_assoc, ih, hkind, hsymbols]
      rfl
    case isFalse hkind =>
      have hno : (lexeme.kind == .error) = false := beq_false_of_ne hkind
      rw [tokens, ih, hno]
      rfl

/-- Errors bring no names. -/
theorem symbols_withoutErrors (L : Layout) (table : SymbolTable) :
    L.withoutErrors.symbols table = L.symbols table := by
  induction L generalizing table with
  | done bs => rfl
  | piece bs lexeme rest ih =>
    rw [withoutErrors]
    split
    case isTrue hkind =>
      rw [symbols_prepend, ih, symbols, lexeme.symbols_value_eq,
        Lexeme.name?_of_kind_eq_error hkind]
      rfl
    case isFalse hkind =>
      rw [symbols, ih]
      rfl

/-- In front of a layout there is none of its errors. -/
theorem IsValid.inError_of_lt {L : Layout} (h : L.IsValid) {position offset : Nat}
    (table : SymbolTable) (hlt : offset < position) :
    inError (L.tokens position table) offset = false := by
  refine List.any_eq_false.2 fun t ht => ?_
  have hspan := List.mem_map_of_mem (f := Token.span) ht
  rw [map_span_tokens] at hspan
  have hstart := (h.bounds_of_mem_spans hspan).1
  simp
  omega

/-- An offset lies in the first lexeme, which is an error, or in an error behind it. -/
theorem inError_tokens_piece (bs : List Char) (l : Lexeme) (rest : Layout) (position : Nat)
    (table : SymbolTable) (offset : Nat) :
    inError ((piece bs l rest).tokens position table) offset =
      ((l.kind == .error && position + byteLength bs ≤ offset &&
          offset < position + byteLength bs + byteLength l.text) ||
        inError (rest.tokens (position + byteLength bs + byteLength l.text) (l.value table).2)
          offset) := by
  rw [tokens, inError, List.any_cons, isError_value]
  rfl

/-- The bytes without the errors are the bytes with the errors overwritten. -/
theorem IsValid.utf8Bytes_withoutErrors {L : Layout} (h : L.IsValid) (position : Nat)
    (table : SymbolTable) {covered : Nat → Bool}
    (hcovered : ∀ i, position ≤ i → covered i = inError (L.tokens position table) i) :
    utf8Bytes L.withoutErrors.text = blankOut covered position (utf8Bytes L.text) := by
  induction h generalizing position table with
  | done hblanks => exact (blankOut_of_uncovered fun i hi _ => hcovered i hi).symm
  | @piece bs lexeme rest hblanks hlexeme hends hrest ih =>
    -- Up to the end of the lexeme, an offset lies in an error just if the lexeme is one.
    have hfirst : ∀ i, position ≤ i → i < position + byteLength bs + byteLength lexeme.text →
        covered i = (lexeme.kind == .error && decide (position + byteLength bs ≤ i)) := by
      intro i hi hlt
      rw [hcovered i hi, inError_tokens_piece, hrest.inError_of_lt _ hlt]
      simp [hlt]
    have hgap : blankOut covered position (utf8Bytes bs) = utf8Bytes bs := by
      refine blankOut_of_uncovered fun i hi hlt => ?_
      rw [length_utf8Bytes] at hlt
      rw [hfirst i hi (by omega), decide_eq_false (by omega), Bool.and_false]
    have hlexeme_bytes : blankOut covered (position + byteLength bs) (utf8Bytes lexeme.text) =
        utf8Bytes lexeme.blanked := by
      unfold Lexeme.blanked
      split
      case isTrue hkind =>
        rw [utf8Bytes_replicate_space, ← length_utf8Bytes lexeme.text]
        refine blankOut_of_covered fun i hi hlt => ?_
        rw [length_utf8Bytes] at hlt
        rw [hfirst i (by omega) hlt, hkind, decide_eq_true hi]
        rfl
      case isFalse hkind =>
        refine blankOut_of_uncovered fun i hi hlt => ?_
        rw [length_utf8Bytes] at hlt
        rw [hfirst i (by omega) hlt, beq_false_of_ne hkind, Bool.false_and]
    -- Behind the lexeme, an offset lies in an error of the rest or in none.
    have hback := ih (position + byteLength bs + byteLength lexeme.text) (lexeme.value table).2
      fun i hi => by
        rw [hcovered i (by omega), inError_tokens_piece, decide_eq_false (by omega : ¬ i < _),
          Bool.and_false, Bool.false_or]
    calc utf8Bytes (Layout.piece bs lexeme rest).withoutErrors.text
        = utf8Bytes bs ++ utf8Bytes lexeme.blanked ++ utf8Bytes rest.withoutErrors.text := by
          rw [text_withoutErrors_piece, utf8Bytes_append, utf8Bytes_append]
      _ = blankOut covered position (utf8Bytes bs) ++
            blankOut covered (position + byteLength bs) (utf8Bytes lexeme.text) ++
            blankOut covered (position + byteLength bs + byteLength lexeme.text)
              (utf8Bytes rest.text) := by
          rw [hgap, hlexeme_bytes, hback]
      _ = blankOut covered position (utf8Bytes (Layout.piece bs lexeme rest).text) := by
          rw [text, utf8Bytes_append, utf8Bytes_append, blankOut_append, blankOut_append,
            List.length_append, length_utf8Bytes, length_utf8Bytes, Nat.add_assoc]

end Layout

/-- The second text is the first with each byte of its errors overwritten with a space. -/
def ErrorsBlanked (source text : String) : Prop :=
  text.toByteArray.data = source.toByteArray.data.mapIdx fun i b =>
    if inError (tokenize source).1 i then ' '.toUInt8 else b

/-- The layout of a text without its errors is that of the text with its errors overwritten. -/
theorem errorsBlanked_withoutErrors (source : String) :
    ErrorsBlanked source (String.ofList (Layout.ofText source.toList).withoutErrors.text) := by
  have hcovered : ∀ i, 0 ≤ i → inError (tokenize source).1 i =
      inError ((Layout.ofText source.toList).tokens 0 .empty) i := by
    intro i _
    rw [Layout.tokens_tokenize]
  have hbytes := (Layout.isValid_ofText source.toList).utf8Bytes_withoutErrors 0 .empty hcovered
  rw [Layout.text_ofText, ← toList_data_toByteArray] at hbytes
  refine Array.toList_inj.1 ?_
  rw [toList_data_toByteArray, String.toList_ofList, hbytes, Array.toList_mapIdx, blankOut]
  simp only [Nat.zero_add]

/-- Just one text comes of overwriting the errors of a text. -/
theorem ErrorsBlanked.eq {source a b : String} (ha : ErrorsBlanked source a)
    (hb : ErrorsBlanked source b) : a = b := by
  refine String.toByteArray_inj.1 (ByteArray.ext ?_)
  rw [ha, hb]

/-- The bytes of the errors of a text can be overwritten with spaces. Then the tokens are those that
were no errors, with their values and spans, and the names are the same. -/
theorem tokenize_errorsBlanked (source : String) :
    (∃ text, ErrorsBlanked source text) ∧
    ∀ text, ErrorsBlanked source text →
      (tokenize text).1 = (tokenize source).1.filter (fun t => !t.isError) ∧
      (tokenize text).2 = (tokenize source).2 := by
  have hblanked := errorsBlanked_withoutErrors source
  refine ⟨⟨_, hblanked⟩, fun text htext => ?_⟩
  obtain rfl := htext.eq hblanked
  have hlayout := (Layout.isValid_ofText source.toList).withoutErrors.eq_ofText
    String.toList_ofList.symm
  constructor
  · rw [Layout.tokens_tokenize, hlayout, Layout.tokens_withoutErrors, Layout.tokens_tokenize]
  · rw [Layout.symbols_tokenize, hlayout, Layout.symbols_withoutErrors, Layout.symbols_tokenize]

/-- A name between errors keeps its place and its index. -/
theorem tokenize_errorsBlanked_touching :
    ErrorsBlanked "x\u2212y&34RR" "x   y&    " ∧
      (tokenize "x   y&    ").1 =
        (tokenize "x\u2212y&34RR").1.filter (fun t => !t.isError) ∧
      (tokenize "x   y&    ").2 = (tokenize "x\u2212y&34RR").2 := by
  have hblanked : ErrorsBlanked "x\u2212y&34RR" "x   y&    " := by
    unfold ErrorsBlanked
    decide +kernel
  exact ⟨hblanked, (tokenize_errorsBlanked _).2 _ hblanked⟩

end LogicLexer
