import LogicLexer.Proofs.Layout.Coverage
import LogicLexer.Proofs.Lexeme.Kind
import LogicLexer.Proofs.Scanner.Run
import LogicLexer.Proofs.SymbolTable.Growth

/-!
# Names by their first occurrence

The symbol table of a text lists the identifiers in the text, each where it first occurs, and
nothing else; the index of an identifier is the place of its name in that list. This holds at the
end and after each call on the way there, for the tokens handed out so far (`tokenize_lists`).

One call puts the name of its token at the end of the list if it is new (`names_after`, by
induction on the calls). All else is read off this list: the index that a call hands out is that
of interning, and later tables start with the table of that call.
-/

namespace LogicLexer

open Text

/-- The name of a token of a text, if it is an identifier. -/
def Token.name? (source : String) (t : Token) : Option String :=
  if t.kind = .identifier then t.span.textIn? source else none

/-- The names of the identifiers among tokens of a text, as often as they occur. -/
def namesIn (source : String) (tokens : List Token) : List String :=
  tokens.filterMap (Token.name? source)

/-- A text stands in a source only within lexemes that are errors. -/
def OccursOnlyInErrors (source w : String) : Prop :=
  ∀ before after, before ++ w.toList ++ after = source.toList →
    ∃ t ∈ (tokenize source).1, t.isError = true ∧ t.span.start ≤ byteLength before ∧
      byteLength before + byteLength w.toList ≤ t.span.stop

/-- What a symbol table tells of the identifiers among tokens of a text. -/
structure SymbolTable.Lists (source : String) (tokens : List Token) (table : SymbolTable) :
    Prop where
  /-- The table has the name of each identifier where it first occurs. -/
  names_eq : table.names = (namesIn source tokens).eraseDups
  /-- The index of an identifier is that of its lexeme in the table. It is at most the number of
  names met before, and equal to it where the name is met for the first time. -/
  index : ∀ before t after, tokens = before ++ t :: after → ∀ index, t.value = .identifier index →
    ∃ name, t.span.textIn? source = some name ∧ table.name? index = some name ∧
      table.get? name = some index ∧ index ≤ (namesIn source before).eraseDups.length ∧
      (index = (namesIn source before).eraseDups.length ↔ name ∉ namesIn source before)
  /-- Identifiers have the same index where their lexemes are the same. -/
  index_eq_iff : ∀ t ∈ tokens, ∀ u ∈ tokens, ∀ i j, t.value = .identifier i →
    u.value = .identifier j → (i = j ↔ t.span.textIn? source = u.span.textIn? source)

namespace SymbolTable

/-- A table of the names in a list goes on with a name as the list does. -/
theorem names_insert_eq_eraseDups {t : SymbolTable} {names : List String}
    (h : t.names = names.eraseDups) (name : String) :
    (t.insert name).names = (names ++ [name]).eraseDups := by
  rw [names_insert, h, List.eraseDups_append]
  by_cases hmem : name ∈ names
  · rw [if_pos (List.mem_eraseDups.2 hmem)]
    simp [List.removeAll, hmem]
  · rw [if_neg (fun hin => hmem (List.mem_eraseDups.1 hin))]
    simp [List.removeAll, hmem, List.eraseDups_cons]

end SymbolTable

/-- The name of a token is that of the lexeme that it was read from. -/
theorem Token.name?_eq {source : String} {t : Token} {l : Lexeme} {table : SymbolTable}
    (hvalue : t.value = (l.value table).1)
    (htext : t.span.textIn? source = some (String.ofList l.text)) : t.name? source = l.name? := by
  have hkind : t.kind = l.kind := by
    rw [Token.kind, hvalue, l.kind_value]
  unfold Token.name?
  rw [hkind, htext]
  by_cases hl : l.kind = .identifier
  · obtain ⟨name, rfl⟩ := l.kind_eq_identifier_iff.1 hl
    rw [if_pos hl]
    rfl
  · rw [if_neg hl]
    cases l with
    | identifier name => exact absurd rfl hl
    | _ => rfl

namespace Scanner

variable (source : String)

/-- The call behind so many others hands out the token of that index. -/
theorem next_fst_after_ofText (count : Nat) :
    ((ofText source).after count).next.1 = (tokenize source).1[count]? :=
  (ofText source).next_fst_after count

/-- After each call the symbol table has the names of the tokens handed out, each where it first
occurs. -/
theorem names_after (count : Nat) :
    ((ofText source).after count).symbols.names =
      (namesIn source ((tokenize source).1.take count)).eraseDups := by
  induction count with
  | zero => rfl
  | succ count ih =>
    have htoken := next_fst_after_ofText source count
    rw [after_succ, List.take_add_one, ← htoken, namesIn, List.filterMap_append]
    rcases h : ((ofText source).after count).next with ⟨_ | t, s'⟩
    · -- The text is over, and neither the tokens nor the names go on.
      obtain ⟨-, hsymbols, -⟩ := rest_of_next_eq_none h
      show s'.symbols.names = (namesIn source _ ++ []).eraseDups
      rw [hsymbols, ih, List.append_nil]
    · -- The token and the table get their name, if there is one, from the same lexeme.
      obtain ⟨l, hvalue, hsymbols, htext, -⟩ := exists_lexeme_of_next_eq_some h
      rw [source_after] at htext
      have hname : t.name? source = l.name? := Token.name?_eq hvalue htext
      show s'.symbols.names = (namesIn source _ ++ [t].filterMap (Token.name? source)).eraseDups
      rw [hsymbols, l.symbols_value_eq, List.filterMap_cons, hname]
      cases l.name? with
      | none =>
        show ((ofText source).after count).symbols.names = (namesIn source _ ++ []).eraseDups
        rw [ih, List.append_nil]
      | some name => exact SymbolTable.names_insert_eq_eraseDups ih name

/-- A later table starts with the names of an earlier one. -/
theorem names_after_isPrefix {i j : Nat} (h : i ≤ j) :
    ((ofText source).after i).symbols.names <+: ((ofText source).after j).symbols.names := by
  obtain ⟨more, rfl⟩ := Nat.exists_eq_add_of_le h
  rw [names_after, names_after, List.take_add, namesIn, namesIn, List.filterMap_append,
    List.eraseDups_append]
  exact List.prefix_append _ _

/-- The index of an identifier is handed out by interning its lexeme in the table that was there
before its token. -/
theorem exists_intern_eq {i : Nat} {t : Token} (ht : (tokenize source).1[i]? = some t) {index : Nat}
    (hindex : t.value = .identifier index) :
    ∃ name, t.span.textIn? source = some name ∧
      ((ofText source).after i).symbols.intern name =
        (index, ((ofText source).after (i + 1)).symbols) := by
  have htoken : ((ofText source).after i).next.1 = some t :=
    (next_fst_after_ofText source i).trans ht
  rw [after_succ]
  rcases h : ((ofText source).after i).next with ⟨_ | u, s'⟩
  · rw [h] at htoken
    exact absurd htoken (by simp)
  · rw [h] at htoken
    obtain rfl : u = t := Option.some.inj htoken
    obtain ⟨l, hvalue, hsymbols, htext, -⟩ := exists_lexeme_of_next_eq_some h
    rw [source_after] at htext
    have hkind : l.kind = .identifier := by
      rw [← l.kind_value ((ofText source).after i).symbols, ← hvalue]
      exact (Value.kind_eq_identifier_iff _).2 ⟨index, hindex⟩
    obtain ⟨name, rfl⟩ := l.kind_eq_identifier_iff.1 hkind
    refine ⟨String.ofList name, htext, ?_⟩
    have hfirst : (((ofText source).after i).symbols.intern (String.ofList name)).1 = index :=
      Value.identifier.inj (hvalue.symm.trans hindex)
    exact Prod.ext hfirst hsymbols.symm

/-- Behind a front of its tokens, a text has an identifier by an index that the names of that front
decide, and every later table has the identifier by this index. -/
theorem exists_get?_after {count : Nat} {before after : List Token} {t : Token}
    (hsplit : (tokenize source).1.take count = before ++ t :: after) {index : Nat}
    (hindex : t.value = .identifier index) :
    ∃ name, t.span.textIn? source = some name ∧
      ((ofText source).after count).symbols.get? name = some index ∧
      index ≤ (namesIn source before).eraseDups.length ∧
      (index = (namesIn source before).eraseDups.length ↔ name ∉ namesIn source before) := by
  have hlt : before.length < count := by
    have hlength := congrArg List.length hsplit
    simp only [List.length_take, List.length_append, List.length_cons] at hlength
    omega
  have ht : (tokenize source).1[before.length]? = some t := by
    rw [← List.getElem?_take_of_lt hlt, hsplit, List.getElem?_append_right (Nat.le_refl _),
      Nat.sub_self]
    rfl
  have hbefore : (tokenize source).1.take before.length = before := by
    have htake := congrArg (List.take before.length) hsplit
    rw [List.take_take, Nat.min_eq_left (Nat.le_of_lt hlt), List.take_left] at htake
    exact htake
  -- The name was interned in the table of the names before it, and keeps its index since.
  obtain ⟨name, htext, hintern⟩ := exists_intern_eq source ht hindex
  have hnames := names_after source before.length
  rw [hbefore] at hnames
  generalize ((ofText source).after before.length).symbols = table at hintern hnames
  have hsize : table.size = (namesIn source before).eraseDups.length := congrArg _ hnames
  have hget := table.get?_intern name
  have hle := table.intern_fst_le_size name
  have hnew := table.intern_fst_eq_size_iff name
  rw [hintern] at hget hle hnew
  rw [hsize] at hle hnew
  rw [hnames, List.mem_eraseDups] at hnew
  exact ⟨name, htext, SymbolTable.get?_of_isPrefix (names_after_isPrefix source hlt) hget, hle,
    hnew⟩

/-- After each call the symbol table lists the names of the tokens handed out. -/
theorem lists_after (count : Nat) :
    ((ofText source).after count).symbols.Lists source ((tokenize source).1.take count) := by
  constructor
  case names_eq => exact names_after source count
  case index =>
    intro before t after hsplit index hindex
    obtain ⟨name, htext, hget, hle, hnew⟩ := exists_get?_after source hsplit hindex
    exact ⟨name, htext, (SymbolTable.get?_eq_some_iff _ name index).1 hget, hget, hle, hnew⟩
  case index_eq_iff =>
    intro t ht u hu i j hi hj
    -- Both names are found at their indices in one table, where these determine each other.
    obtain ⟨_, _, hsplit⟩ := List.append_of_mem ht
    obtain ⟨name, htext, hget, -⟩ := exists_get?_after source hsplit hi
    obtain ⟨_, _, hsplit'⟩ := List.append_of_mem hu
    obtain ⟨name', htext', hget', -⟩ := exists_get?_after source hsplit' hj
    rw [htext, htext']
    constructor
    · rintro rfl
      rw [SymbolTable.get?_eq_some_iff] at hget hget'
      exact hget.symm.trans hget'
    · intro hname
      obtain rfl := Option.some.inj hname
      exact Option.some.inj (hget.symm.trans hget')

/-- A token of a text that lies within another one is that one. -/
theorem eq_of_span_le {t u : Token} (ht : t ∈ (tokenize source).1) (hu : u ∈ (tokenize source).1)
    (hstart : u.span.start ≤ t.span.start) (hstop : t.span.stop ≤ u.span.stop) : t = u := by
  have hvalid := Layout.isValid_ofText source.toList
  have hordered := hvalid.pairwise_spans 0
  rw [← Layout.map_span_tokenize, List.pairwise_map] at hordered
  have hmem := List.mem_map_of_mem (f := Token.span) ht
  rw [Layout.map_span_tokenize] at hmem
  have hproper : t.span.start < t.span.stop := (hvalid.bounds_of_mem_spans hmem).2.1
  -- Of two tokens, the second one would start behind the bytes of both.
  have hbehind := List.pairwise_iff_getElem.1 hordered
  obtain ⟨i, hi, rfl⟩ := List.mem_iff_getElem.1 ht
  obtain ⟨j, hj, rfl⟩ := List.mem_iff_getElem.1 hu
  rcases Nat.lt_trichotomy i j with hij | rfl | hij
  · have := hbehind i j hi hj hij
    omega
  · rfl
  · have := hbehind j i hj hi hij
    omega

/-- What occurs only within errors is never a name. -/
theorem notMem_names_after {w : String} (h : OccursOnlyInErrors source w) (count : Nat) :
    w ∉ ((ofText source).after count).symbols.names := by
  intro hmem
  rw [names_after, List.mem_eraseDups, namesIn, List.mem_filterMap] at hmem
  obtain ⟨t, ht, hname⟩ := hmem
  obtain ⟨hkind, htext⟩ : t.kind = .identifier ∧ t.span.textIn? source = some w := by
    simpa [Token.name?] using hname
  obtain ⟨before, after, hsplit, hstart, hstop⟩ := Span.textIn?_eq_some_iff.1 htext
  obtain ⟨u, hu, herror, hustart, hustop⟩ := h before after hsplit
  -- The error that the name lies in would be its own token.
  obtain rfl : t = u := eq_of_span_le source (List.mem_of_mem_take ht) hu (by omega) (by omega)
  simp [Token.isError, hkind] at herror

end Scanner

/-- The symbol table of a text lists the identifiers among its tokens, and so does the table after
each call for a token with the tokens handed out. The table after a call is a front of the last one,
and what occurs only within errors is never in it. -/
theorem tokenize_lists (source : String) :
    (tokenize source).2.Lists source (tokenize source).1 ∧
      ∀ count, ((Scanner.ofText source).after count).symbols.Lists source
          ((tokenize source).1.take count) ∧
        ((Scanner.ofText source).after count).symbols.names <+: (tokenize source).2.names ∧
        ∀ w, OccursOnlyInErrors source w →
          w ∉ ((Scanner.ofText source).after count).symbols.names := by
  have hlast := Scanner.lists_after source ((tokenize source).1.length + 1)
  rw [List.take_of_length_le (Nat.le_succ _), ← Scanner.symbols_tokenize_eq_after] at hlast
  refine ⟨hlast, fun count => ⟨Scanner.lists_after source count, ?_, fun w hw =>
    Scanner.notMem_names_after source hw count⟩⟩
  -- Calls behind the last token change nothing, so the last table is one that comes later.
  have hlater : ((Scanner.ofText source).after (count + (tokenize source).1.length)).symbols.names =
      (tokenize source).2.names := by
    rw [Scanner.names_after, List.take_of_length_le (Nat.le_add_left _ _), hlast.names_eq]
  rw [← hlater]
  exact Scanner.names_after_isPrefix source (Nat.le_add_right _ _)

/-- The letters of a malformed number are no name, though letters by themselves are. -/
theorem tokenize_lists_malformedNumber :
    (tokenize "x 34RR").1 =
        [⟨.identifier 0, ⟨0, 1⟩⟩, ⟨.error "34RR" .malformedNumber, ⟨2, 6⟩⟩] ∧
      (tokenize "x 34RR").2.get? "x" = some 0 ∧ OccursOnlyInErrors "x 34RR" "RR" ∧
      "RR" ∉ ((Scanner.ofText "x 34RR").after 2).symbols.names := by
  have htokens : (tokenize "x 34RR").1 =
      [⟨.identifier 0, ⟨0, 1⟩⟩, ⟨.error "34RR" .malformedNumber, ⟨2, 6⟩⟩] := by
    decide +kernel
  have honly : OccursOnlyInErrors "x 34RR" "RR" := by
    intro before after hsplit
    refine ⟨⟨.error "34RR" .malformedNumber, ⟨2, 6⟩⟩, by simp [htokens], rfl, ?_⟩
    have hsplit : before ++ ['R', 'R'] ++ after = ['x', ' ', '3', '4', 'R', 'R'] := hsplit
    -- No front of the text but this one goes on with two of these letters.
    obtain rfl : before = ['x', ' ', '3', '4'] := by
      rcases before with _ | ⟨a, _ | ⟨b, _ | ⟨c, _ | ⟨d, _ | ⟨e, before⟩⟩⟩⟩⟩ <;>
        simp_all [List.append_eq_cons_iff]
    decide
  obtain ⟨hlists, hcalls⟩ := tokenize_lists "x 34RR"
  obtain ⟨name, htext, -, hget, -⟩ := hlists.index [] _ _ htokens 0 rfl
  refine ⟨htokens, ?_, honly, (hcalls 2).2.2 "RR" honly⟩
  have hx : (Span.mk 0 1).textIn? "x 34RR" = some "x" := by decide +kernel
  obtain rfl : "x" = name := Option.some.inj (hx.symm.trans htext)
  exact hget

end LogicLexer
