import LogicLexer.Proofs.Layout.Coverage
import LogicLexer.Proofs.Lexeme.Kind
import LogicLexer.Proofs.Number.Decimal

/-!
# The line of a token

A token is printed on one line, as its kind and the payload of its value. The kind is found again in
front of the first comma, whatever the payload (`Token.kind_and_text_eq_of_text_eq`). For the tokens
of texts, kind and payload tell the value (`Token.value_eq_of_text_eq`): numbers are written in one
way only, and an erroneous text is of one form only, so it tells the issue, though it may hold
quotes and commas and is printed as it is.
-/

namespace LogicLexer

open Text

/-- The name of a kind tells the kind. -/
theorem Kind.name_injective {k l : Kind} (h : k.name = l.name) : k = l := by
  have hparse := k.parse_name
  rw [h, l.parse_name] at hparse
  exact (Except.ok.inj hparse).symm

namespace Value

/-- A value that a lexeme stands for. -/
def IsRead (v : Value) : Prop :=
  ∃ (l : Lexeme) (table : SymbolTable), l.IsValid ∧ v = (l.value table).1

/-- A number with a point is read as a number. -/
theorem IsRead.isNaN_eq_false {x : Binary64} (h : (float x).IsRead) : x.isNaN = false := by
  obtain ⟨l, table, -, hvalue⟩ := h
  have hkind : l.kind = .float := by
    rw [← l.kind_value table, ← hvalue]
    rfl
  obtain ⟨negative, whole, fraction, rfl⟩ := l.kind_eq_float_iff.1 hkind
  obtain rfl := Value.float.inj hvalue
  exact Binary64.isNaN_ofMagnitude (Binary64.roundMagnitude_le_infinity _ _) negative

/-- An erroneous text is of one form only, so there is one issue with it. -/
theorem IsRead.issue_eq {text : String} {issue issue' : Issue} (h : (error text issue).IsRead)
    (h' : (error text issue').IsRead) : issue = issue' := by
  obtain ⟨l, table, hl, hvalue⟩ := h
  obtain ⟨m, table', hm, hvalue'⟩ := h'
  have htext : l.text = m.text :=
    (Lexeme.toList_of_value_eq_error hvalue.symm).symm.trans
      (Lexeme.toList_of_value_eq_error hvalue'.symm)
  obtain rfl := hl.eq_of_text_eq hm htext
  -- The symbol table has a part in identifiers only.
  have hsame : (l.value table).1 = (l.value table').1 := by
    cases l with
    | identifier name => exact absurd hvalue (by simp [Lexeme.value])
    | _ => rfl
  exact (Value.error.inj (hvalue.trans (hsame.trans hvalue'.symm))).2

/-- Among the values that are read, kind and payload tell the value. -/
theorem IsRead.eq_of_text_eq {v w : Value} (hv : v.IsRead) (hw : w.IsRead) (hkind : v.kind = w.kind)
    (htext : v.text = w.text) : v = w := by
  have hlist := congrArg String.toList htext
  cases v with
  | identifier index =>
    cases w with
    | identifier index' =>
      simp only [text, Nat.toList_repr] at hlist
      rw [eq_of_toDigits_eq (by decide) (by decide) hlist]
    | _ => cases hkind
  | integer n =>
    cases w with
    | integer n' =>
      have hnumber := congrArg numeral hlist
      simp only [text, numeral_repr] at hnumber
      rw [Int64.toInt_inj.1 hnumber]
    | _ => cases hkind
  | float x =>
    cases w with
    | float y => rw [Binary64.text_injective hv.isNaN_eq_false hw.isNaN_eq_false htext]
    | _ => cases hkind
  | error lexeme issue =>
    cases w with
    | error lexeme' issue' =>
      simp only [text, String.toList_append] at hlist
      have hsame := String.toList_inj.1 (List.append_cancel_left (List.append_cancel_right hlist))
      subst hsame
      rw [hv.issue_eq hw]
    | _ => cases hkind
  | _ =>
    cases w <;> first | rfl | cases hkind

/-- There is no line feed in an erroneous text. -/
theorem IsRead.lineFeed_notMem_lexeme {lexeme : String} {issue : Issue}
    (h : (error lexeme issue).IsRead) : '\n' ∉ lexeme.toList := by
  obtain ⟨l, table, hl, hvalue⟩ := h
  rw [Lexeme.toList_of_value_eq_error hvalue.symm]
  exact fun hc => absurd (hl.isWhiteSpace_of_mem _ hc) (by decide)

/-- There is no line feed in the payload of a value that is read. -/
theorem IsRead.lineFeed_notMem {v : Value} (h : v.IsRead) : '\n' ∉ v.text.toList := by
  cases v with
  | identifier index =>
    rw [text, Nat.toList_repr]
    exact (isDigits_toDigits index).notMem rfl
  | integer n => exact fun hc => absurd (of_mem_repr hc) (by decide)
  | float x => exact Binary64.lineFeed_notMem_text h.isNaN_eq_false
  | error lexeme issue =>
    simp only [text, String.toList_append, List.mem_append, not_or]
    exact ⟨⟨by decide, h.lineFeed_notMem_lexeme⟩, by decide⟩
  | _ => decide

end Value

/-- A call for a token hands out a value that is read. -/
theorem Scanner.isRead_of_next_eq_some {s s' : Scanner} {t : Token} (h : s.next = (some t, s')) :
    t.value.IsRead := by
  obtain ⟨c, cs, hrest, rfl, -⟩ := of_next_eq_some h
  have hblank : isWhiteSpace c = false := by
    have hstops := stops_dropWhile isWhiteSpace s.rest
    rw [hrest] at hstops
    exact stops_cons.1 hstops
  exact ⟨_, s.symbols, (Lexeme.isValid_endsAt_read hblank cs).1, rfl⟩

namespace Token

/-- A token of a text has the value of a lexeme. -/
theorem isRead_of_mem_tokenize {source : String} {t : Token} (h : t ∈ (tokenize source).1) :
    t.value.IsRead := by
  obtain ⟨-, -, l, table, hl, -, hvalue, -⟩ := Layout.exists_lexeme_of_mem_tokenize h
  exact ⟨l, table, hl, hvalue⟩

/-- The line of a token tells its kind and the payload of its value. -/
theorem kind_and_text_eq_of_text_eq {t u : Token} (h : t.text = u.text) :
    t.value.kind = u.value.kind ∧ t.value.text = u.value.text := by
  -- Whatever an erroneous text holds, it stands behind this comma.
  have hcomma : ∀ k : Kind, ',' ∉ k.name.toList := fun k => by cases k <;> decide
  have hlist := congrArg String.toList h
  simp only [text, String.toList_append, List.append_assoc] at hlist
  obtain ⟨hname, hrest⟩ := append_cons_inj (hcomma _) (hcomma _) (List.append_cancel_left hlist)
  exact ⟨Kind.name_injective (String.toList_inj.1 hname),
    String.toList_inj.1 (List.append_cancel_right (List.cons.inj hrest).2)⟩

/-- Among the tokens of texts, the line of a token tells its value. -/
theorem value_eq_of_text_eq {source source' : String} {t u : Token} (ht : t ∈ (tokenize source).1)
    (hu : u ∈ (tokenize source').1) (h : t.text = u.text) : t.value = u.value := by
  obtain ⟨hkind, htext⟩ := kind_and_text_eq_of_text_eq h
  exact (isRead_of_mem_tokenize ht).eq_of_text_eq (isRead_of_mem_tokenize hu) hkind htext

/-- A token of a text is printed on one line. -/
theorem lineFeed_notMem_text {source : String} {t : Token} (h : t ∈ (tokenize source).1) :
    '\n' ∉ t.text.toList := by
  have hname : ∀ k : Kind, '\n' ∉ k.name.toList := fun k => by cases k <;> decide
  have hpayload := (isRead_of_mem_tokenize h).lineFeed_notMem
  simp only [text, String.toList_append, List.mem_append, not_or]
  exact ⟨⟨⟨⟨by decide, hname _⟩, by decide⟩, hpayload⟩, by decide⟩

/-- The line of a token starts with an angle bracket, and is none that does not. -/
theorem text_ne (t : Token) {line : String} (h : line.toList.head? ≠ some '<') : t.text ≠ line := by
  rintro rfl
  apply h
  simp only [text, String.toList_append, List.append_assoc]
  rfl

end Token

end LogicLexer
