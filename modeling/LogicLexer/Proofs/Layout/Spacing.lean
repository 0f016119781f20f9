import LogicLexer.Proofs.Layout.Coverage

/-!
# The blanks of a text

What a text is read as depends on its lexemes, and on its blanks only in so far as they keep
lexemes apart. Other blanks may stand in every gap, as long as no gap between two lexemes is closed
(`IsValid.respace`): then the tokens have the same values and the same lexemes, and the names are
the same (`tokenize_respaced`). Single spaces between the lexemes do for every text, and make it the
shortest way to write all gaps alike: `singleSpaced` gives one text for all that differ in blanks.

A gap that was closed may stay closed, since the lexeme in front of it meets the same character as
before; in an open gap it meets a blank, which ends every lexeme.
-/

namespace LogicLexer

open Text

namespace Layout

/-- The layout with other blanks. -/
def respace : Layout → List (List Char) → Layout
  | done _, new :: _ => done new
  | piece _ lexeme rest, new :: news => piece new lexeme (rest.respace news)
  | L, [] => L

/-- There is one more gap than there are lexemes. -/
theorem length_blanks (L : Layout) : L.blanks.length = L.lexemes.length + 1 := by
  induction L with
  | done bs => rfl
  | piece bs lexeme rest ih =>
    show rest.blanks.length + 1 = rest.lexemes.length + 1 + 1
    rw [ih]

/-- Other blanks leave the lexemes as they are. -/
theorem lexemes_respace (L : Layout) (news : List (List Char)) :
    (L.respace news).lexemes = L.lexemes := by
  induction L generalizing news with
  | done bs => cases news <;> rfl
  | piece bs lexeme rest ih =>
    cases news with
    | nil => rfl
    | cons new news => exact congrArg (lexeme :: ·) (ih news)

/-- As many blanks as there are gaps are the new blanks. -/
theorem blanks_respace (L : Layout) {news : List (List Char)}
    (hlength : news.length = L.blanks.length) : (L.respace news).blanks = news := by
  induction L generalizing news with
  | done bs =>
    obtain ⟨new, rfl⟩ := List.length_eq_one_iff.1 hlength
    rfl
  | piece bs lexeme rest ih =>
    cases news with
    | nil => exact absurd hlength (by simp [blanks])
    | cons new news => exact congrArg (new :: ·) (ih (by simpa [blanks] using hlength))

/-- With other blanks, a text starts with a blank or as it did before, unless its first gap was open
and is closed now. -/
theorem IsValid.mem_head?_respace {L : Layout} (h : L.IsValid) {new : List Char}
    {news : List (List Char)} (hlength : news.length = L.lexemes.length)
    (hnew : ∀ c ∈ new, isWhiteSpace c = true)
    (hclosed : L.lexemes ≠ [] → new = [] → L.blanks[0]? = some []) {c : Char}
    (hc : c ∈ (L.respace (new :: news)).text.head?) :
    c ∈ L.text.head? ∨ isWhiteSpace c = true := by
  cases h with
  | done hblanks => exact Or.inr (hnew c (List.mem_of_head? hc))
  | @piece bs lexeme rest hblanks hlexeme hends hrest =>
    have hfirst : c ∈ (new ++ lexeme.text ++ (rest.respace news).text).head? := hc
    by_cases hnil : new = []
    · -- The gap is closed and was closed, so the lexeme is in front as before.
      have hbs : some bs = some [] := hclosed (by simp [lexemes]) hnil
      obtain rfl : bs = [] := Option.some.inj hbs
      obtain ⟨d, ds, hd⟩ := List.exists_cons_of_ne_nil hlexeme.text_ne_nil
      rw [hnil, hd] at hfirst
      refine Or.inl ?_
      rw [text, hd]
      exact hfirst
    · obtain ⟨d, ds, rfl⟩ := List.exists_cons_of_ne_nil hnil
      obtain rfl : d = c := Option.some.inj hfirst
      exact Or.inr (hnew d List.mem_cons_self)

/-- Other blanks make another valid layout, if no gap between two lexemes is closed that was open.
-/
theorem IsValid.respace {L : Layout} (h : L.IsValid) {news : List (List Char)}
    (hlength : news.length = L.blanks.length)
    (hblank : ∀ new ∈ news, ∀ c ∈ new, isWhiteSpace c = true)
    (hclosed : ∀ i, 0 < i → i + 1 < news.length → news[i]? = some [] → L.blanks[i]? = some []) :
    (L.respace news).IsValid := by
  induction h generalizing news with
  | done hblanks =>
    obtain ⟨new, rfl⟩ := List.length_eq_one_iff.1 hlength
    exact .done (hblank new List.mem_cons_self)
  | @piece bs lexeme rest hblanks hlexeme hends hrest ih =>
    rw [length_blanks] at hlength
    match news, hlength with
    | new :: behind :: news, hlength =>
      have hrest_length : news.length = rest.lexemes.length := by
        simpa [lexemes] using hlength
      have hbehind : ∀ c ∈ behind, isWhiteSpace c = true := hblank behind (by simp)
      -- The lexeme meets a blank or the character that it met before.
      have hends_new : lexeme.EndsAt (rest.respace (behind :: news)).text := by
        refine hends.of_head? fun c hc => hrest.mem_head?_respace hrest_length hbehind ?_ hc
        intro hlexemes hnil
        have hpos := List.length_pos_iff.2 hlexemes
        exact hclosed 1 Nat.one_pos (by simp; omega) (by simp [hnil])
      refine .piece (hblank new List.mem_cons_self) hlexeme hends_new (ih ?_ ?_ ?_)
      · rw [length_blanks, List.length_cons, hrest_length]
      · exact fun g hg => hblank g (List.mem_cons_of_mem _ hg)
      · intro i hi hlt hnil
        exact hclosed (i + 1) (Nat.succ_pos i) (by simpa using hlt) (by simpa using hnil)

/-- The values and names of a layout are those of its lexemes. -/
theorem map_value_tokens_of_lexemes_eq {L M : Layout} (h : L.lexemes = M.lexemes)
    (position position' : Nat) (table : SymbolTable) :
    (L.tokens position table).map Token.value = (M.tokens position' table).map Token.value ∧
      L.symbols table = M.symbols table := by
  induction L generalizing M position position' table with
  | done bs =>
    cases M with
    | done bs' => exact ⟨rfl, rfl⟩
    | piece bs' lexeme' rest' => exact absurd h (by simp [lexemes])
  | piece bs lexeme rest ih =>
    cases M with
    | done bs' => exact absurd h (by simp [lexemes])
    | piece bs' lexeme' rest' =>
      obtain ⟨rfl, hrest⟩ := List.cons.inj h
      obtain ⟨hvalues, hsymbols⟩ := ih hrest (position + byteLength bs + byteLength lexeme.text)
        (position' + byteLength bs' + byteLength lexeme.text) (lexeme.value table).2
      exact ⟨congrArg ((lexeme.value table).1 :: ·) hvalues, hsymbols⟩

/-- The tokens of a text have the lexemes of its layout. -/
theorem map_textIn?_tokenize (source : String) :
    (tokenize source).1.map (·.span.textIn? source) =
      (ofText source.toList).lexemes.map (fun l => some (String.ofList l.text)) := by
  obtain ⟨-, hspans⟩ := (ofText source.toList).map_textIn?_gaps_spans [] (text_ofText source.toList)
  rw [byteLength_nil, ← map_span_tokenize, List.map_map] at hspans
  exact hspans

/-- The gaps around the tokens of a text have the blanks of its layout. -/
theorem map_textIn?_gaps_tokenize (source : String) :
    (Span.gaps source.utf8ByteSize 0 ((tokenize source).1.map Token.span)).map
        (·.textIn? source) =
      (ofText source.toList).blanks.map (fun part => some (String.ofList part)) := by
  obtain ⟨hgaps, -⟩ := (ofText source.toList).map_textIn?_gaps_spans [] (text_ofText source.toList)
  rw [byteLength_nil, ← map_span_tokenize] at hgaps
  exact hgaps

end Layout

/-- The lexemes of the tokens of a text. -/
def lexemeTexts (source : String) : List String :=
  (tokenize source).1.filterMap (·.span.textIn? source)

/-- The gaps between and around the tokens of a text. -/
def gapTexts (source : String) : List String :=
  (Span.gaps source.utf8ByteSize 0 ((tokenize source).1.map Token.span)).filterMap
    (·.textIn? source)

/-- The lexemes of a text with single spaces between them. -/
def singleSpaced (source : String) : String :=
  " ".intercalate (lexemeTexts source)

/-- Blanks that may stand in the gaps of a text in place of those that do. -/
structure Respaces (old new : List String) : Prop where
  /-- There are as many. -/
  length_eq : new.length = old.length
  /-- They are blanks. -/
  blank : ∀ g ∈ new, ∀ c ∈ g.toList, isWhiteSpace c = true
  /-- A gap between two tokens is closed only if it was closed before. -/
  closed : ∀ i, 0 < i → i + 1 < old.length → new[i]? = some "" → old[i]? = some ""

/-- Two texts have tokens of the same values and lexemes, and the same names. -/
structure SameTokens (a b : String) : Prop where
  /-- The values are the same in the same order. -/
  values : (tokenize a).1.map Token.value = (tokenize b).1.map Token.value
  /-- Each span covers the same lexeme in its text. -/
  lexemes : (tokenize a).1.map (·.span.textIn? a) = (tokenize b).1.map (·.span.textIn? b)
  /-- The symbol tables are the same. -/
  symbols : (tokenize a).2 = (tokenize b).2

/-- A function that gives some value on each member leaves none of them out. -/
theorem filterMap_eq_of_map_eq {α β : Type} {f : α → Option β} {xs : List α} {ys : List β}
    (h : xs.map f = ys.map some) : xs.filterMap f = ys := by
  calc xs.filterMap f = (xs.map f).filterMap id := by rw [List.filterMap_map, Function.id_comp]
    _ = (ys.map some).filterMap id := by rw [h]
    _ = ys := by simp

/-- The lexemes of a text are those of its layout. -/
theorem lexemeTexts_eq (source : String) :
    lexemeTexts source =
      (Layout.ofText source.toList).lexemes.map fun l => String.ofList l.text := by
  refine filterMap_eq_of_map_eq ?_
  rw [Layout.map_textIn?_tokenize, List.map_map]
  rfl

/-- The gaps of a text are the blanks of its layout. -/
theorem gapTexts_eq (source : String) :
    gapTexts source = (Layout.ofText source.toList).blanks.map String.ofList := by
  refine filterMap_eq_of_map_eq ?_
  rw [Layout.map_textIn?_gaps_tokenize, List.map_map]
  rfl

/-- There is one more gap than there are lexemes. -/
theorem length_gapTexts (source : String) :
    (gapTexts source).length = (lexemeTexts source).length + 1 := by
  rw [gapTexts_eq, lexemeTexts_eq, List.length_map, List.length_map, Layout.length_blanks]

/-- Texts with the same lexemes have the same tokens. -/
theorem SameTokens.of_lexemes_eq {a b : String}
    (h : (Layout.ofText a.toList).lexemes = (Layout.ofText b.toList).lexemes) : SameTokens a b := by
  obtain ⟨hvalues, hsymbols⟩ := Layout.map_value_tokens_of_lexemes_eq h 0 0 .empty
  constructor
  case values => rw [Layout.tokens_tokenize, Layout.tokens_tokenize, hvalues]
  case lexemes => rw [Layout.map_textIn?_tokenize, Layout.map_textIn?_tokenize, h]
  case symbols => rw [Layout.symbols_tokenize, Layout.symbols_tokenize, hsymbols]

/-- The layout with other blanks is that of the text that is put together with them. -/
theorem Layout.text_respace {source : String} {new : List String}
    (hlength : (new.map String.toList).length = (ofText source.toList).blanks.length) :
    ((ofText source.toList).respace (new.map String.toList)).text =
      (String.join (weave new (lexemeTexts source))).toList := by
  have hnew : (new.map String.toList).map String.ofList = new := by
    simp [List.map_map, Function.comp_def]
  have hlexemes : ((ofText source.toList).lexemes.map Lexeme.text).map String.ofList =
      lexemeTexts source := by
    rw [lexemeTexts_eq, List.map_map]
    rfl
  have hjoin := join_weave (new.map String.toList) ((ofText source.toList).lexemes.map Lexeme.text)
  rw [hnew, hlexemes] at hjoin
  rw [hjoin, String.toList_ofList, ← flatten_weave, blanks_respace _ hlength, lexemes_respace]

/-- With other blanks in its gaps a text has the same tokens. -/
theorem Respaces.sameTokens {source : String} {new : List String}
    (h : Respaces (gapTexts source) new) :
    SameTokens (String.join (weave new (lexemeTexts source))) source := by
  have hlength : (new.map String.toList).length =
      (Layout.ofText source.toList).blanks.length := by
    rw [List.length_map, h.length_eq, gapTexts_eq, List.length_map]
  have hblank : ∀ part ∈ new.map String.toList, ∀ c ∈ part, isWhiteSpace c = true := by
    intro part hpart
    obtain ⟨g, hg, rfl⟩ := List.mem_map.1 hpart
    exact h.blank g hg
  have hclosed : ∀ i, 0 < i → i + 1 < (new.map String.toList).length →
      (new.map String.toList)[i]? = some [] →
      (Layout.ofText source.toList).blanks[i]? = some [] := by
    intro i hi hlt hnil
    rw [List.length_map, h.length_eq] at hlt
    rw [List.getElem?_map, Option.map_eq_some_iff] at hnil
    obtain ⟨g, hg, hempty⟩ := hnil
    obtain rfl := String.toList_eq_nil_iff.1 hempty
    have hold := h.closed i hi hlt hg
    rw [gapTexts_eq, List.getElem?_map, Option.map_eq_some_iff] at hold
    obtain ⟨part, hpart, hpart_empty⟩ := hold
    rw [hpart, ← String.toList_ofList (l := part), hpart_empty]
    rfl
  -- The new blanks make a valid layout of the new text, with the lexemes of the old one.
  have hvalid := (Layout.isValid_ofText source.toList).respace hlength hblank hclosed
  refine SameTokens.of_lexemes_eq ?_
  rw [hvalid.eq_ofText (Layout.text_respace hlength), Layout.lexemes_respace]

/-- Single spaces between a number of lexemes, and nothing around them. -/
def spaces : Nat → List String
  | 0 => [""]
  | n + 1 => "" :: (List.replicate n " " ++ [""])

/-- Lexemes with single spaces are joined by them. -/
theorem join_weave_spaces (lexemes : List String) :
    String.join (weave (spaces lexemes.length) lexemes) = " ".intercalate lexemes := by
  cases lexemes with
  | nil => rfl
  | cons w ws =>
    show String.join ("" :: w :: weave (List.replicate ws.length " " ++ [""]) ws) = _
    rw [String.join_cons, String.empty_append]
    induction ws generalizing w with
    | nil => simp [weave]
    | cons x xs ih =>
      have hstep := ih x
      rw [String.intercalate_cons_cons, ← hstep]
      simp [weave, List.replicate_succ, String.append_assoc]

/-- Single spaces may stand in the gaps of every text. -/
theorem respaces_spaces (source : String) :
    Respaces (gapTexts source) (spaces (lexemeTexts source).length) := by
  have hlength := length_gapTexts source
  generalize gapTexts source = gaps at hlength ⊢
  generalize (lexemeTexts source).length = n at hlength ⊢
  cases n with
  | zero =>
    constructor
    case length_eq => exact hlength.symm
    case blank => simp [spaces]
    case closed => omega
  | succ n =>
    constructor
    case length_eq => simp [spaces, hlength]
    case blank =>
      intro g hg c hc
      obtain rfl | rfl : g = "" ∨ g = " " := by
        simp only [spaces, List.mem_cons, List.mem_append, List.mem_replicate] at hg
        grind
      · simp at hc
      · obtain rfl : c = ' ' := by simpa using hc
        decide
    case closed =>
      intro i hi hlt hempty
      -- Between two lexemes there is a space, which is not nothing.
      have hspace : (spaces (n + 1))[i]? = some " " := by
        obtain ⟨j, rfl⟩ := Nat.exists_eq_add_of_le' hi
        have hj : j < n := by omega
        simp [spaces, List.getElem?_append, hj]
      rw [hspace] at hempty
      exact absurd (Option.some.inj hempty) (by decide)

/-- Single spaces between its lexemes leave the tokens of a text as they are. -/
theorem sameTokens_singleSpaced (source : String) : SameTokens (singleSpaced source) source := by
  have h := (respaces_spaces source).sameTokens
  rw [join_weave_spaces] at h
  exact h

/-- Texts with the same tokens are the same with single spaces. -/
theorem SameTokens.singleSpaced_eq {a b : String} (h : SameTokens a b) :
    singleSpaced a = singleSpaced b := by
  have hlexemes : lexemeTexts a = lexemeTexts b := by
    refine filterMap_eq_of_map_eq ?_
    rw [h.lexemes, Layout.map_textIn?_tokenize, lexemeTexts_eq, List.map_map]
    rfl
  rw [singleSpaced, singleSpaced, hlexemes]

/-- Each token of a text covers its lexeme and each gap around the tokens covers its blanks. With
other blanks in the gaps, none of them closing one that was open between two tokens, there are as
many tokens, of the same values and lexemes, and the same names. So it is with single spaces, and
these do not change when the gaps are filled with single spaces again. -/
theorem tokenize_respaced (source : String) :
    ((tokenize source).1.map (·.span.textIn? source) = (lexemeTexts source).map some ∧
      (Span.gaps source.utf8ByteSize 0 ((tokenize source).1.map Token.span)).map
        (·.textIn? source) = (gapTexts source).map some) ∧
    (∀ new, Respaces (gapTexts source) new →
      SameTokens (String.join (weave new (lexemeTexts source))) source) ∧
    SameTokens (singleSpaced source) source ∧
    singleSpaced (singleSpaced source) = singleSpaced source := by
  refine ⟨⟨?_, ?_⟩, fun new h => h.sameTokens, sameTokens_singleSpaced source,
    (sameTokens_singleSpaced source).singleSpaced_eq⟩
  · rw [Layout.map_textIn?_tokenize, lexemeTexts_eq, List.map_map]
    rfl
  · rw [Layout.map_textIn?_gaps_tokenize, gapTexts_eq, List.map_map]
    rfl

/-- A name and a number that touch may go on touching, with other blanks around them. -/
theorem tokenize_respaced_touching :
    Respaces (gapTexts "x-5 y") [" ", "", "\t\n", ""] ∧ SameTokens " x-5\t\ny" "x-5 y" := by
  have hgaps : gapTexts "x-5 y" = ["", "", " ", ""] := by decide +kernel
  have hlexemes : lexemeTexts "x-5 y" = ["x", "-5", "y"] := by decide +kernel
  have hrespaces : Respaces (gapTexts "x-5 y") [" ", "", "\t\n", ""] := by
    rw [hgaps]
    constructor
    case length_eq => rfl
    case blank =>
      have hall : ([" ", "", "\t\n", ""].flatMap String.toList).all isWhiteSpace = true := by
        decide +kernel
      intro g hg c hc
      exact List.all_eq_true.1 hall c (List.mem_flatMap.2 ⟨g, hg, hc⟩)
    case closed =>
      intro i hi hlt hempty
      have hlt : i + 1 < 4 := hlt
      obtain rfl | rfl : i = 1 ∨ i = 2 := by omega
      · rfl
      · exact absurd hempty (by decide)
  have hsame := (tokenize_respaced "x-5 y").2.1 _ hrespaces
  rw [hlexemes] at hsame
  exact ⟨hrespaces, hsame⟩

end LogicLexer
