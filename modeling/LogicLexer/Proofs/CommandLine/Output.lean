import LogicLexer.Proofs.CommandLine.Batch
import LogicLexer.Proofs.SymbolTable.Growth
import LogicLexer.Proofs.Token.Line

/-!
# What the output tells

A batch run that prints all tokens and the symbol table prints lines: those of the tokens, an empty
one, the heading, and those of the names (`BatchRun.output_eq`). No token and no name has a line
feed in it, so the output tells the lines; no token has an empty line, so it tells where the table
begins; and each line tells what it was printed for (`Token.value_eq_of_text_eq`,
`SymbolTable.eq_of_line_eq`). Runs with the same output have read the same values and names
(`output_tells`), whatever their texts and their other options, if one of them comes to its end.

A report that cannot be drawn breaks a run off. Then it prints the lines of some tokens and no table
(`batch_cases`), which no other run prints that comes to its end. What stands behind such a report
is not told by the output (`output_eq_behind_error`).
-/

namespace LogicLexer

open Text

/-! ## Lines -/

/-- Lines that follow other lines. -/
theorem Text.unlines_append (xs ys : List String) :
    unlines (xs ++ ys) = unlines xs ++ unlines ys := by
  unfold unlines
  rw [List.map_append, String.join_append]

/-- A line goes up to its line feed. -/
theorem Text.toList_unlines_cons (line : String) (lines : List String) :
    (unlines (line :: lines)).toList = line.toList ++ '\n' :: (unlines lines).toList := by
  rw [unlines_cons, String.toList_append, String.toList_append, List.append_assoc]
  rfl

/-- Lines without line feeds in them are told by the text that they make. -/
theorem Text.unlines_injective {xs ys : List String} (hxs : ∀ line ∈ xs, '\n' ∉ line.toList)
    (hys : ∀ line ∈ ys, '\n' ∉ line.toList) (h : unlines xs = unlines ys) : xs = ys := by
  rw [← String.toList_inj] at h
  induction xs generalizing ys with
  | nil =>
    cases ys with
    | nil => rfl
    | cons y ys => simp at h
  | cons x xs ih =>
    cases ys with
    | nil => simp at h
    | cons y ys =>
      rw [toList_unlines_cons, toList_unlines_cons] at h
      obtain ⟨hx, hxs'⟩ := List.forall_mem_cons.1 hxs
      obtain ⟨hy, hys'⟩ := List.forall_mem_cons.1 hys
      obtain ⟨hline, hrest⟩ := append_cons_inj hx hy h
      rw [String.toList_inj.1 hline, ih hxs' hys' hrest]

/-! ## The lines of the table -/

namespace SymbolTable

/-- The line of a name and its index. -/
def line (entry : Nat × String) : String :=
  entry.1.repr ++ ": " ++ entry.2

/-- The line of an index and a name tells both, whatever the name. -/
theorem eq_of_line_eq {e f : Nat × String} (h : line e = line f) : e = f := by
  have hcolon : ∀ n : Nat, ':' ∉ Nat.toDigits 10 n := fun n => (isDigits_toDigits n).notMem rfl
  have hlist := congrArg String.toList h
  simp only [line, String.toList_append, Nat.toList_repr, List.append_assoc] at hlist
  obtain ⟨hindex, hrest⟩ := append_cons_inj (hcolon _) (hcolon _) hlist
  exact Prod.ext (eq_of_toDigits_eq (by decide) (by decide) hindex)
    (String.toList_inj.1 (List.cons.inj hrest).2)

/-- The table is printed as its lines. -/
theorem text_eq_unlines (t : SymbolTable) : t.text = unlines (t.entries.map line) := by
  rw [text, unlines, List.map_map]
  rfl

end SymbolTable

/-- The names of a layout are lexemes of it, but for those met before it. -/
theorem Layout.exists_mem_lexemes_of_mem_names (L : Layout) {table : SymbolTable} {name : String}
    (h : name ∈ (L.symbols table).names) :
    name ∈ table.names ∨ ∃ l ∈ L.lexemes, l.name? = some name := by
  induction L generalizing table with
  | done bs => exact .inl h
  | piece bs lexeme rest ih =>
    rcases ih h with hbefore | ⟨l, hl, hname⟩
    · rw [lexeme.symbols_value_eq] at hbefore
      cases hlearnt : lexeme.name? with
      | none =>
        rw [hlearnt] at hbefore
        exact .inl hbefore
      | some learnt =>
        rw [hlearnt] at hbefore
        have hbefore : name ∈ (table.insert learnt).names := hbefore
        rw [SymbolTable.names_insert] at hbefore
        split at hbefore
        · exact .inl hbefore
        · rcases List.mem_append.1 hbefore with hold | hnew
          · exact .inl hold
          · rw [List.mem_singleton.1 hnew]
            exact .inr ⟨lexeme, List.mem_cons_self, hlearnt⟩
    · exact .inr ⟨l, List.mem_cons_of_mem _ hl, hname⟩

/-- There is no line feed in a name of a text. -/
theorem lineFeed_notMem_of_mem_names {source name : String}
    (h : name ∈ (tokenize source).2.names) : '\n' ∉ name.toList := by
  rw [Layout.symbols_tokenize] at h
  rcases Layout.exists_mem_lexemes_of_mem_names _ h with hnone | ⟨l, hl, hname⟩
  · exact absurd hnone List.not_mem_nil
  · have hvalid := (Layout.isValid_ofText source.toList).isValid_of_mem_lexemes hl
    cases l with
    | identifier cs =>
      obtain rfl := Option.some.inj hname
      rw [String.toList_ofList]
      exact fun hc => absurd (hvalid.isWhiteSpace_of_mem _ hc) (by decide)
    | _ => cases hname

/-- So the line of a name has none in it. -/
theorem SymbolTable.lineFeed_notMem_line {source : String} {entry : Nat × String}
    (h : entry ∈ (tokenize source).2.entries) : '\n' ∉ (line entry).toList := by
  obtain ⟨i, hi, rfl⟩ := List.mem_mapIdx.1 h
  have hname := lineFeed_notMem_of_mem_names (List.getElem_mem hi)
  have hindex : '\n' ∉ Nat.toDigits 10 i := (isDigits_toDigits i).notMem rfl
  simp only [line, String.toList_append, Nat.toList_repr, List.mem_append, not_or]
  exact ⟨⟨hindex, by decide⟩, hname⟩

namespace CommandLine

/-! ## All lines -/

/-- The lines of a text's tokens and of its symbol table. -/
def tableLines (text : String) : List String :=
  (tokenize text).1.map Token.text ++
    "" :: "Symbol Table:" :: (tokenize text).2.entries.map SymbolTable.line

/-- The lines of the tokens of all kinds. -/
theorem tokenLines_nil (text : String) : tokenLines [] text = (tokenize text).1.map Token.text := by
  have hkept : (tokenize text).1.filter (asksFor []) = (tokenize text).1 :=
    List.filter_eq_self.2 fun _ _ => rfl
  rw [tokenLines, hkept]

/-- Behind the lines of the tokens, the table is printed as lines. -/
theorem unlines_tableLines (text : String) :
    unlines (tableLines text) = unlines (tokenLines [] text) ++ (tokenize text).2.listing := by
  have hheading : "\nSymbol Table:\n" = "\n" ++ ("Symbol Table:" ++ "\n") := by decide
  rw [tableLines, unlines_append, unlines_cons, unlines_cons, tokenLines_nil, SymbolTable.listing,
    SymbolTable.text_eq_unlines, hheading]
  simp only [String.empty_append, String.append_assoc]

/-- No token has an empty line. -/
theorem empty_notMem_tokenLines (only : List Kind) (text : String) : "" ∉ tokenLines only text := by
  intro h
  obtain ⟨t, -, htext⟩ := List.mem_map.1 h
  exact t.text_ne (by decide) htext

/-- There is no line feed in the lines. -/
theorem lineFeed_notMem_of_mem_tableLines {text line : String} (h : line ∈ tableLines text) :
    '\n' ∉ line.toList := by
  rcases List.mem_append.1 h with h | h
  · obtain ⟨t, ht, rfl⟩ := List.mem_map.1 h
    exact Token.lineFeed_notMem_text ht
  · rcases List.mem_cons.1 h with rfl | h
    · decide
    · rcases List.mem_cons.1 h with rfl | h
      · decide
      · obtain ⟨entry, hentry, rfl⟩ := List.mem_map.1 h
        exact SymbolTable.lineFeed_notMem_line hentry

/-- Where the elements of two lists tell something, equal lists tell the same. -/
theorem map_eq_of_map_eq {α β γ : Type} {f : α → β} {g : α → γ} {xs ys : List α}
    (hfg : ∀ x ∈ xs, ∀ y ∈ ys, f x = f y → g x = g y) (h : xs.map f = ys.map f) :
    xs.map g = ys.map g := by
  induction xs generalizing ys with
  | nil => rw [List.map_eq_nil_iff.1 h.symm]
  | cons x xs ih =>
    cases ys with
    | nil => cases h
    | cons y ys =>
      obtain ⟨hhead, htail⟩ := List.cons.inj h
      rw [List.map_cons, List.map_cons, hfg x List.mem_cons_self y List.mem_cons_self hhead,
        ih (fun x hx y hy => hfg x (.tail _ hx) y (.tail _ hy)) htail]

/-- The lines tell the values of the tokens, and the names with their indices. -/
theorem eq_of_tableLines_eq {a b : String} (h : unlines (tableLines a) = unlines (tableLines b)) :
    (tokenize a).1.map Token.value = (tokenize b).1.map Token.value ∧
      (tokenize a).2.entries = (tokenize b).2.entries := by
  have hlines := unlines_injective (fun _ => lineFeed_notMem_of_mem_tableLines)
    (fun _ => lineFeed_notMem_of_mem_tableLines) h
  have hempty := fun text => tokenLines_nil text ▸ empty_notMem_tokenLines [] text
  -- The first empty line is the one in front of the heading.
  obtain ⟨htokens, htable⟩ := append_cons_inj (hempty a) (hempty b) hlines
  refine ⟨map_eq_of_map_eq (fun t ht u hu => Token.value_eq_of_text_eq ht hu) htokens, ?_⟩
  exact List.map_injective_iff.2 (fun _ _ => SymbolTable.eq_of_line_eq) (List.cons.inj htable).2

/-! ## Runs -/

/-- A report that cannot be drawn ends the run behind the line of its token. -/
theorem printFrom_of_tokenReport_eq_error (o : Options) (source : Source) {s s' : Scanner}
    {t : Token} {failure : ReportFailure} (h : s.next = (some t, s'))
    (hreport : tokenReport o source t = .error failure) :
    printFrom o source s = ⟨101, tokenLine o t, brokenReport failure⟩ := by
  rw [printFrom]
  split <;> simp_all

/-- A run breaks off behind the line of the first token whose report cannot be drawn. -/
theorem printFrom_of_drain_eq (o : Options) (source : Source) {s : Scanner}
    {front rest : List Token} {t : Token} {failure : ReportFailure} {reports : List String}
    (htokens : s.drain.1 = front ++ t :: rest)
    (hfront : front.map (tokenReport o source) = reports.map Except.ok)
    (hreport : tokenReport o source t = .error failure) :
    printFrom o source s =
      ⟨101, String.join ((front ++ [t]).map (tokenLine o)),
        String.join reports ++ brokenReport failure⟩ := by
  -- The run takes the tokens in front one by one, and each call leaves another scanner behind.
  induction front generalizing s reports with
  | nil =>
    obtain rfl : reports = [] := by simpa using hfront.symm
    rcases hnext : s.next with ⟨_ | u, s'⟩
    · rw [Scanner.drain_of_next_eq_none hnext] at htokens
      cases htokens
    · rw [Scanner.drain_of_next_eq_some hnext] at htokens
      obtain ⟨rfl, -⟩ := List.cons.inj htokens
      rw [printFrom_of_tokenReport_eq_error o source hnext hreport]
      simp
  | cons u front ih =>
    obtain ⟨report, reports, rfl, hu, hreports⟩ :=
      List.map_eq_cons_iff.1 (hfront.symm.trans List.map_cons)
    rcases hnext : s.next with ⟨_ | v, s'⟩
    · rw [Scanner.drain_of_next_eq_none hnext] at htokens
      cases htokens
    · rw [Scanner.drain_of_next_eq_some hnext] at htokens
      obtain ⟨rfl, hrest⟩ := List.cons.inj htokens
      rw [printFrom_of_next_eq_some o source hnext hu.symm, ih hrest hreports.symm]
      simp only [List.cons_append, List.map_cons, String.join_cons, String.append_assoc]

/-- A function that may fail gives values on a whole list, or on what stands in front of the first
element on which it fails. -/
theorem map_eq_map_ok_or_exists {α β ε : Type} (f : α → Except ε β) (xs : List α) :
    (∃ ys : List β, xs.map f = ys.map Except.ok) ∨
      ∃ (front : List α) (x : α) (rest : List α) (ys : List β) (e : ε),
        xs = front ++ x :: rest ∧ front.map f = ys.map Except.ok ∧ f x = .error e := by
  induction xs with
  | nil => exact .inl ⟨[], rfl⟩
  | cons x xs ih =>
    cases hx : f x with
    | error e => exact .inr ⟨[], x, xs, [], e, rfl, rfl, hx⟩
    | ok y =>
      rcases ih with ⟨ys, hys⟩ | ⟨front, z, rest, ys, e, rfl, hys, hz⟩
      · exact .inl ⟨y :: ys, by rw [List.map_cons, hx, hys, List.map_cons]⟩
      · exact .inr ⟨x :: front, z, rest, y :: ys, e, rfl,
          by rw [List.map_cons, hx, hys, List.map_cons], hz⟩

/-- A run prints the lines of all tokens and the last symbol table, or it breaks off behind the
line of a token. -/
theorem printFrom_cases (o : Options) (source : Source) (s : Scanner) :
    (printFrom o source s).code = 0 ∧ (printFrom o source s).output =
        String.join (s.drain.1.map (tokenLine o)) ++
          (if o.has .table then s.drain.2.symbols.listing else "") ∨
      (printFrom o source s).code = 101 ∧ ∃ front, front <+: s.drain.1 ∧
        (printFrom o source s).output = String.join (front.map (tokenLine o)) := by
  rcases map_eq_map_ok_or_exists (tokenReport o source) s.drain.1 with
    ⟨reports, hreports⟩ | ⟨front, t, rest, reports, failure, htokens, hfront, hreport⟩
  · rw [printFrom_eq o source hreports]
    exact .inl ⟨rfl, rfl⟩
  · rw [printFrom_of_drain_eq o source htokens hfront hreport, htokens]
    exact .inr ⟨rfl, front ++ [t], ⟨rest, List.append_cons .. |>.symm⟩, rfl⟩

/-- A batch run comes to its end or breaks off, and then has printed the lines of some of the first
tokens. -/
theorem batch_cases (o : Options) (source : Source) :
    (batch o source).code = 0 ∧ (batch o source).output =
        unlines (tokenLines o.only source.text) ++
          (if o.has .table then (tokenize source.text).2.listing else "") ∨
      (batch o source).code = 101 ∧ ∃ lines, lines <+: tokenLines o.only source.text ∧
        (batch o source).output = unlines lines := by
  have hlines := join_tokenLine o (tokenize source.text).1
  rcases printFrom_cases o source source.scanner with hdone | ⟨hcode, front, hfront, houtput⟩
  · rw [tokenLines, ← hlines]
    exact .inl hdone
  · rw [join_tokenLine] at houtput
    exact .inr ⟨hcode, _, (hfront.filter _).map _, houtput⟩

/-- A run that asks for all tokens and the table prints the lines of its text, or it breaks off and
prints lines of tokens. -/
theorem BatchRun.output_cases {load : String → Except SourceError Source} {arguments : List String}
    {o : Options} {source : Source} (h : BatchRun load arguments o source)
    (htable : o.has .table = true) (honly : o.only = []) (input : Input) :
    (run load arguments input).code = 0 ∧
        (run load arguments input).output = unlines (tableLines source.text) ∨
      (run load arguments input).code = 101 ∧ ∃ lines, lines <+: tokenLines [] source.text ∧
        (run load arguments input).output = unlines lines := by
  have hcases := batch_cases o source
  rw [htable, honly, if_pos rfl, ← unlines_tableLines] at hcases
  rwa [h.run_eq input]

/-- It does not break off if all reports that are asked for can be drawn. -/
theorem BatchRun.output_eq {load : String → Except SourceError Source} {arguments : List String}
    {o : Options} {source : Source} (h : BatchRun load arguments o source)
    (htable : o.has .table = true) (honly : o.only = [])
    (hreach : o.has .diagnostics = true → source.InReach) (input : Input) :
    (run load arguments input).code = 0 ∧
      (run load arguments input).output = unlines (tableLines source.text) := by
  obtain ⟨errors, -, hbatch⟩ := batch_eq hreach
  rw [htable, honly, if_pos rfl, ← unlines_tableLines] at hbatch
  rw [h.run_eq input, hbatch]
  exact ⟨rfl, rfl⟩

/-- There is no line feed in the lines of tokens. -/
theorem lineFeed_notMem_of_isPrefix {text line : String} {lines : List String}
    (h : lines <+: tokenLines [] text) (hline : line ∈ lines) : '\n' ∉ line.toList := by
  have hmem := h.subset hline
  rw [tokenLines_nil] at hmem
  exact lineFeed_notMem_of_mem_tableLines (List.mem_append_left _ hmem)

/-- What is broken off is never the output of a run that comes to its end. -/
theorem unlines_tableLines_ne {text text' : String} {lines : List String}
    (h : lines <+: tokenLines [] text') : unlines (tableLines text) ≠ unlines lines := by
  intro heq
  have hlines := unlines_injective (fun _ => lineFeed_notMem_of_mem_tableLines)
    (fun _ => lineFeed_notMem_of_isPrefix h) heq
  refine empty_notMem_tokenLines [] text' (h.subset ?_)
  rw [← hlines]
  exact List.mem_append_right _ List.mem_cons_self

/-- Some first lines of tokens tell the values of as many tokens. -/
theorem map_value_take_eq {text text' : String} {lines : List String}
    (h : lines <+: tokenLines [] text) (h' : lines <+: tokenLines [] text') :
    ((tokenize text).1.take lines.length).map Token.value =
      ((tokenize text').1.take lines.length).map Token.value := by
  have htake := List.prefix_iff_eq_take.1 h
  have htake' := List.prefix_iff_eq_take.1 h'
  rw [tokenLines_nil, ← List.map_take] at htake htake'
  refine map_eq_of_map_eq (fun t ht u hu => ?_) (htake.symm.trans htake')
  exact Token.value_eq_of_text_eq (List.mem_of_mem_take ht) (List.mem_of_mem_take hu)

/-- Of two runs with the same output, either both come to their ends and have read the same values
and names, or both are broken off behind as many tokens, which have the same values. -/
theorem BatchRun.cases_of_output_eq {load load' : String → Except SourceError Source}
    {arguments arguments' : List String} {o o' : Options} {source source' : Source}
    (hrun : BatchRun load arguments o source) (hrun' : BatchRun load' arguments' o' source')
    (htable : o.has .table = true) (htable' : o'.has .table = true) (honly : o.only = [])
    (honly' : o'.only = []) (input input' : Input)
    (h : (run load arguments input).output = (run load' arguments' input').output) :
    (run load arguments input).code = 0 ∧ (run load' arguments' input').code = 0 ∧
        (tokenize source.text).1.map Token.value = (tokenize source'.text).1.map Token.value ∧
        (tokenize source.text).2.entries = (tokenize source'.text).2.entries ∨
      (run load arguments input).code = 101 ∧ (run load' arguments' input').code = 101 ∧
        ∃ count, ((tokenize source.text).1.take count).map Token.value =
            ((tokenize source'.text).1.take count).map Token.value ∧
          (run load arguments input).output =
            unlines (((tokenize source.text).1.take count).map Token.text) := by
  rcases hrun.output_cases htable honly input with
    ⟨hcode, houtput⟩ | ⟨hcode, lines, hlines, houtput⟩
  · rcases hrun'.output_cases htable' honly' input' with
      ⟨hcode', houtput'⟩ | ⟨-, lines', hlines', houtput'⟩
    · left
      exact ⟨hcode, hcode', eq_of_tableLines_eq (houtput.symm.trans (h.trans houtput'))⟩
    · exact absurd (houtput.symm.trans (h.trans houtput')) (unlines_tableLines_ne hlines')
  · rcases hrun'.output_cases htable' honly' input' with
      ⟨-, houtput'⟩ | ⟨hcode', lines', hlines', houtput'⟩
    · exact absurd (houtput'.symm.trans (h.symm.trans houtput)) (unlines_tableLines_ne hlines)
    · right
      -- Lines without line feeds are told by the output, so both runs have printed the same ones.
      obtain rfl : lines = lines' :=
        unlines_injective (fun _ => lineFeed_notMem_of_isPrefix hlines)
          (fun _ => lineFeed_notMem_of_isPrefix hlines')
          (houtput.symm.trans (h.trans houtput'))
      refine ⟨hcode, hcode', lines.length, map_value_take_eq hlines hlines', ?_⟩
      rw [houtput, List.map_take, ← tokenLines_nil, ← List.prefix_iff_eq_take.1 hlines]

/-- The output of a batch run over all tokens with the table tells what was read, if all reports
that are asked for can be drawn: a run with the same output has read tokens of the same values, and
has the same names with the same indices in its table. Of any two such runs with the same output,
either both come to their ends, and then this holds as well; or both are broken off behind as many
tokens, and then these have the same values. A run comes to its end if no reports are asked for or
all of them can be drawn. No token's line has a line feed in it or is one of the two above the
names, and the lines of tokens and names tell their values and their names with indices, be it in
another text. -/
theorem output_tells {load load' : String → Except SourceError Source}
    {arguments arguments' : List String} {o o' : Options} {source source' : Source}
    (hrun : BatchRun load arguments o source) (hrun' : BatchRun load' arguments' o' source')
    (htable : o.has .table = true) (htable' : o'.has .table = true) (honly : o.only = [])
    (honly' : o'.only = []) (input input' : Input) :
    let outcome := run load arguments input
    let outcome' := run load' arguments' input'
    let scanned := tokenize source.text
    let scanned' := tokenize source'.text
    (outcome.output = outcome'.output → (o.has .diagnostics = true → source.InReach) →
      scanned.1.map Token.value = scanned'.1.map Token.value ∧
        scanned.2.entries = scanned'.2.entries) ∧
    (outcome.output = outcome'.output →
      outcome.code = 0 ∧ outcome'.code = 0 ∧
          scanned.1.map Token.value = scanned'.1.map Token.value ∧
          scanned.2.entries = scanned'.2.entries ∨
        outcome.code = 101 ∧ outcome'.code = 101 ∧ ∃ count,
          (scanned.1.take count).map Token.value = (scanned'.1.take count).map Token.value ∧
          outcome.output = unlines ((scanned.1.take count).map Token.text)) ∧
    ((o.has .diagnostics = true → source.InReach) → outcome.code = 0) ∧
    (∀ t ∈ scanned.1, '\n' ∉ t.text.toList ∧ t.text ≠ "" ∧ t.text ≠ "Symbol Table:" ∧
      ∀ t' ∈ scanned'.1, t.text = t'.text → t.value = t'.value) ∧
    ∀ e ∈ scanned.2.entries, '\n' ∉ (SymbolTable.line e).toList ∧
      ∀ e' ∈ scanned'.2.entries, SymbolTable.line e = SymbolTable.line e' → e = e' := by
  intro outcome outcome' scanned scanned'
  have hsame := hrun.cases_of_output_eq hrun' htable htable' honly honly' input input'
  have hends : (o.has .diagnostics = true → source.InReach) → outcome.code = 0 := fun hreach =>
    (hrun.output_eq htable honly hreach input).1
  refine ⟨fun houtputs hreach => ?_, hsame, hends, ?tokens, ?names⟩
  · rcases hsame houtputs with ⟨-, -, hread⟩ | ⟨hcode, -⟩
    · exact hread
    · exact absurd ((hends hreach).symm.trans hcode) (by decide)
  case tokens =>
    intro t ht
    exact ⟨Token.lineFeed_notMem_text ht, t.text_ne (by decide), t.text_ne (by decide),
      fun t' ht' => Token.value_eq_of_text_eq ht ht'⟩
  case names =>
    intro e he
    exact ⟨SymbolTable.lineFeed_notMem_line he, fun e' _ => SymbolTable.eq_of_line_eq⟩

/-- Texts of the same tokens on one line and on two lines, with and without reports. -/
theorem output_tells_lines :
    let load : String → Except SourceError Source := fun path => .error (.notText path)
    let source : Source := ⟨"<eval>", "x && 34RR -0.5"⟩
    let source' : Source := ⟨"<eval>", "x&&\n34RR  -0.50 "⟩
    let o : Options := { eval := some source.text, flags := [.table] }
    let o' : Options := { eval := some source'.text, flags := [.table, .diagnostics] }
    BatchRun load o.arguments o source ∧ BatchRun load o'.arguments o' source' ∧
      o.has .table = true ∧ o'.has .table = true ∧ o.only = [] ∧ o'.only = [] ∧
      (run load o.arguments "").output = (run load o'.arguments "").output ∧
      (tokenize source.text).1.map Token.value = (tokenize source'.text).1.map Token.value := by
  intro load source source' o o'
  have hvalid : o.IsValid := ⟨⟨by decide, by decide⟩, by decide⟩
  have hvalid' : o'.IsValid := ⟨⟨by decide, by decide⟩, by decide⟩
  have hrun := BatchRun.of_isValid load hvalid rfl rfl
  have hrun' := BatchRun.of_isValid load hvalid' rfl rfl
  have hreach : source'.InReach := by
    unfold Source.InReach
    decide +kernel
  have hlines : tableLines source.text = tableLines source'.text := by decide +kernel
  have hunasked : o.has .diagnostics = true → source.InReach := fun h => by cases h
  have hprinted : (run load o.arguments "").output = (run load o'.arguments "").output := by
    rw [(hrun.output_eq rfl rfl hunasked "").2, (hrun'.output_eq rfl rfl (fun _ => hreach) "").2,
      hlines]
  obtain ⟨hvalues, -⟩ :=
    (output_tells hrun hrun' rfl rfl rfl rfl "" "").1 hprinted hunasked
  exact ⟨hrun, hrun', rfl, rfl, rfl, rfl, hprinted, hvalues⟩

/-- A run that asks for reports breaks off at a symbol behind letters as far as the caret reaches,
whatever stands behind it. -/
theorem batch_lettersSymbol {o : Options} (ho : o.has .diagnostics = true) (honly : o.only = [])
    {source : Source} {n : Nat} {rest : List Char}
    (hsource : source.text = String.ofList (lettersSymbol n ++ rest))
    (hn : Report.caretLimit ≤ n) (hends : (Lexeme.unrecognised ['@']).EndsAt rest) :
    batch o source = ⟨101, "<ID, 0>\n<ERROR, \"@\">\n", brokenReport .caretTooWide⟩ := by
  have hne : n ≠ 0 := Nat.ne_of_gt (Nat.lt_of_lt_of_le (by decide) hn)
  have htokens : source.scanner.drain.1 =
      [⟨.identifier 0, ⟨0, n⟩⟩] ++ ⟨.error "@" .unrecognisedSymbol, ⟨n, n + 1⟩⟩ ::
        (Layout.ofText rest).tokens (n + 1)
          (SymbolTable.empty.insert (String.ofList (List.replicate n 'a'))) := by
    rw [Source.scanner, hsource]
    exact congrArg Prod.fst (tokenize_lettersSymbol_append hne hends)
  -- The name has no report, so the one of the symbol is the first that may fail.
  have hsymbol : tokenReport o source ⟨.error "@" .unrecognisedSymbol, ⟨n, n + 1⟩⟩ =
      .error .caretTooWide := by
    unfold tokenReport
    dsimp only [Token.diagnostic?]
    rw [if_pos ho, report_lettersSymbol hsource hn]
    rfl
  have hline : ∀ value span,
      tokenLine o ⟨value, span⟩ = "<" ++ value.kind.name ++ ", " ++ value.text ++ ">" ++ "\n" := by
    intro value span
    rw [tokenLine, honly]
    rfl
  have hname : [Token.mk (.identifier 0) ⟨0, n⟩].map (tokenReport o source) = [""].map .ok := rfl
  have hlines : String.join (([Token.mk (.identifier 0) ⟨0, n⟩] ++
      [Token.mk (.error "@" .unrecognisedSymbol) ⟨n, n + 1⟩]).map (tokenLine o)) =
      "<ID, 0>\n<ERROR, \"@\">\n" := by
    simp only [List.cons_append, List.nil_append, List.map_cons, List.map_nil, hline]
    decide +kernel
  rw [batch, printFrom_of_drain_eq o source htokens hname hsymbol, hlines]
  rfl

/-- A name and a number behind letters and a symbol are tokens more and a name more. -/
theorem tokenize_lettersSymbol_ne {n : Nat} (hn : n ≠ 0) :
    let scanned := tokenize (String.ofList (lettersSymbol n ++ []))
    let scanned' := tokenize (String.ofList (lettersSymbol n ++ [' ', 'x', ' ', '7']))
    scanned.1.map Token.value ≠ scanned'.1.map Token.value ∧
      scanned.2.entries ≠ scanned'.2.entries := by
  intro scanned scanned'
  have hscan : scanned = _ := tokenize_lettersSymbol_append hn (Lexeme.endsAt_nil _)
  have hscan' : scanned' = _ :=
    tokenize_lettersSymbol_append hn (Lexeme.endsAt_of_isWhiteSpace _ (by decide +kernel))
  -- Behind the symbol, a name and a number are still to be read.
  have hbehind : Layout.ofText [' ', 'x', ' ', '7'] =
      .piece [' '] (.identifier ['x']) (.piece [' '] (.integer false ['7']) (.done [])) := by
    have hblank : ∀ c ∈ [' '], isWhiteSpace c = true :=
      List.forall_mem_singleton.2 (by decide +kernel)
    have hname : (Lexeme.identifier ['x']).IsValid :=
      .identifier (by decide +kernel) (List.forall_mem_nil _)
    have hnumber : (Lexeme.integer false ['7']).IsValid := .integer false (isDigits_toDigits 7)
    exact Layout.IsValid.eq_ofText
      (.piece hblank hname (Lexeme.endsAt_of_isWhiteSpace _ (by decide +kernel))
        (.piece hblank hnumber (Lexeme.endsAt_nil _) (.done (List.forall_mem_nil _)))) rfl
  rw [Layout.ofText_of_eq_nil rfl] at hscan
  rw [hbehind] at hscan'
  -- The table of the first text has one name, and the other name is not that one.
  have hnames : (SymbolTable.empty.insert (String.ofList (List.replicate n 'a'))).names =
      [String.ofList (List.replicate n 'a')] :=
    SymbolTable.names_insert_of_notMem List.not_mem_nil
  have hnew : "x" ∉ (SymbolTable.empty.insert (String.ofList (List.replicate n 'a'))).names := by
    intro hx
    rw [hnames, List.mem_singleton, ← String.toList_inj, String.toList_ofList,
      String.toList_ofList] at hx
    have hmem : 'x' ∈ List.replicate n 'a' := by
      rw [← hx]
      exact List.mem_cons_self
    exact absurd (List.eq_of_mem_replicate hmem) (by decide)
  have hlonger := SymbolTable.length_entries_insert_of_notMem hnew
  rw [hscan, hscan']
  constructor
  · intro h
    cases congrArg List.length h
  · intro h
    exact absurd ((congrArg List.length h).trans hlonger) (Nat.ne_of_lt (Nat.lt_succ_self _))

/-- Of two texts, the second goes on behind an error whose caret is out of reach. The runs that ask
for reports print the same and are both broken off, but the second text has more tokens and another
name. -/
theorem output_eq_behind_error :
    let load : String → Except SourceError Source := fun path => .error (.notText path)
    let source : Source := ⟨"<eval>", String.ofList (lettersSymbol 65535 ++ [])⟩
    let source' : Source := ⟨"<eval>", String.ofList (lettersSymbol 65535 ++ [' ', 'x', ' ', '7'])⟩
    let o : Options := { eval := some source.text, flags := [.table, .diagnostics] }
    let o' : Options := { eval := some source'.text, flags := [.table, .diagnostics] }
    BatchRun load o.arguments o source ∧ BatchRun load o'.arguments o' source' ∧
      o.has .table = true ∧ o'.has .table = true ∧ o.only = [] ∧ o'.only = [] ∧
      (run load o.arguments "").code = 101 ∧ (run load o'.arguments "").code = 101 ∧
      (run load o.arguments "").output = (run load o'.arguments "").output ∧
      (tokenize source.text).1.map Token.value ≠ (tokenize source'.text).1.map Token.value ∧
      (tokenize source.text).2.entries ≠ (tokenize source'.text).2.entries := by
  intro load source source' o o'
  have hvalid : o.IsValid := ⟨⟨by decide, nofun⟩, .inl rfl⟩
  have hvalid' : o'.IsValid := ⟨⟨by decide, nofun⟩, .inl rfl⟩
  have hrun := BatchRun.of_isValid load hvalid rfl rfl
  have hrun' := BatchRun.of_isValid load hvalid' rfl rfl
  -- Nothing in front of the symbol tells the two texts apart, and neither run gets behind it.
  have hlimit : Report.caretLimit ≤ 65535 := Nat.le_refl _
  have htext : source.text = String.ofList (lettersSymbol 65535 ++ []) := rfl
  have htext' : source'.text = String.ofList (lettersSymbol 65535 ++ [' ', 'x', ' ', '7']) := rfl
  have hbroken := batch_lettersSymbol (o := o) rfl rfl htext hlimit (Lexeme.endsAt_nil _)
  have hbroken' := batch_lettersSymbol (o := o') rfl rfl htext' hlimit
    (Lexeme.endsAt_of_isWhiteSpace _ (by decide +kernel))
  rw [hrun.run_eq, hrun'.run_eq, hbroken, hbroken']
  exact ⟨hrun, hrun', rfl, rfl, rfl, rfl, rfl, rfl, rfl, tokenize_lettersSymbol_ne (by decide)⟩

end CommandLine

end LogicLexer
