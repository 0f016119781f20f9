import LogicLexer.Proofs.Number.Digits
import LogicLexer.Proofs.Text.Run
import LogicLexer.Text.Quoted

/-!
# A quoted text is read in one way

The forms in which characters stand in a quoted text (`IsEscape`) are those of a prefix code: where
two of them start the same text, they are one form of one character (`IsEscape.eq_of_append_eq`).
None of them starts with a quote, so the first quote that stands where a character could is the
closing one, whatever the quoted text holds and whatever follows it. So a quoted text with anything
behind it tells both (`quote_append_inj`).
-/

namespace LogicLexer.Text

/-- The characters with a two-character escape, and what follows the backslash there. -/
def escapeLetters : List (Char × Char) :=
  [('\x00', '0'), ('\t', 't'), ('\r', 'r'), ('\n', 'n'), ('"', '"'), ('\\', '\\')]

/-- The two-character escapes are those listed. -/
theorem mem_escapeLetters {c letter : Char} (h : escapeLetter? c = some letter) :
    (c, letter) ∈ escapeLetters := by
  grind [escapeLetter?, escapeLetters]

/-- The letter of an escape tells the character. -/
theorem escapeLetter?_inj {c d letter : Char} (hc : escapeLetter? c = some letter)
    (hd : escapeLetter? d = some letter) : c = d := by
  have hall : ∀ e ∈ escapeLetters, ∀ f ∈ escapeLetters, e.2 = f.2 → e.1 = f.1 := by decide
  exact hall _ (mem_escapeLetters hc) _ (mem_escapeLetters hd) rfl

/-- No letter of an escape is the one that announces a code point. -/
theorem escapeLetter?_ne_u {c letter : Char} (h : escapeLetter? c = some letter) :
    letter ≠ 'u' := by
  have hall : ∀ e ∈ escapeLetters, e.2 ≠ 'u' := by decide
  exact hall _ (mem_escapeLetters h)

/-- A code point goes up to the brace behind it. -/
theorem brace_notMem_hexDigits (n : Nat) : '\x7d' ∉ hexDigits n := by
  intro h
  obtain ⟨d, hd, hbrace⟩ := exists_digit_of_mem_toDigits (by decide) h
  have hall : ∀ d < 16, '\x7d' ≠ Nat.digitChar d := by decide
  exact hall d hd hbrace

/-- The form in which a character stands in a quoted text. -/
inductive IsEscape (c : Char) : List Char → Prop
  /-- A backslash and a letter or sign. -/
  | letter {letter : Char} (h : escapeLetter? c = some letter) : IsEscape c ['\\', letter]
  /-- The code point in braces. -/
  | codePoint : IsEscape c ('\\' :: 'u' :: '\x7b' :: (hexDigits c.toNat ++ ['\x7d']))
  /-- The character itself. -/
  | itself (backslash : c ≠ '\\') (quote : c ≠ '"') : IsEscape c [c]

/-- Every character stands in a quoted text in its form. -/
theorem isEscape_escape (c : Char) : IsEscape c (escape c) := by
  unfold escape
  split
  · next letter h => exact .letter h
  · next h =>
    split
    · exact .codePoint
    · -- Backslash and quote have letters of their own, so neither stands for itself.
      have hbackslash : c ≠ '\\' := by
        rintro rfl
        exact absurd h (by decide)
      have hquote : c ≠ '"' := by
        rintro rfl
        exact absurd h (by decide)
      exact .itself hbackslash hquote

namespace IsEscape

variable {c d : Char} {xs ys : List Char}

/-- No form starts with the closing quote. -/
theorem append_ne_quote (hx : IsEscape c xs) (rest rest' : List Char) :
    xs ++ rest ≠ '"' :: rest' := by
  intro h
  cases hx with
  | letter _ => exact absurd (List.cons.inj h).1 (by decide)
  | codePoint => exact absurd (List.cons.inj h).1 (by decide)
  | itself _ hquote => exact hquote (List.cons.inj h).1

/-- The forms are a prefix code: a text starts with one of them at most, and that is the form of one
character. -/
theorem eq_of_append_eq (hx : IsEscape c xs) (hy : IsEscape d ys) {rest rest' : List Char}
    (h : xs ++ rest = ys ++ rest') : c = d ∧ rest = rest' := by
  -- The first character tells an escape, and the second one of which kind it is.
  cases hx with
  | letter hc =>
    cases hy with
    | letter hd =>
      obtain ⟨rfl, hrest⟩ := List.cons.inj (List.cons.inj h).2
      exact ⟨escapeLetter?_inj hc hd, hrest⟩
    | codePoint => exact absurd (List.cons.inj (List.cons.inj h).2).1 (escapeLetter?_ne_u hc)
    | itself hbackslash _ => exact absurd (List.cons.inj h).1.symm hbackslash
  | codePoint =>
    cases hy with
    | letter hd => exact absurd (List.cons.inj (List.cons.inj h).2).1.symm (escapeLetter?_ne_u hd)
    | codePoint =>
      have hbraced :
          hexDigits c.toNat ++ '\x7d' :: rest = hexDigits d.toNat ++ '\x7d' :: rest' := by
        simpa using h
      obtain ⟨hdigits, hrest⟩ :=
        append_cons_inj (brace_notMem_hexDigits _) (brace_notMem_hexDigits _) hbraced
      exact ⟨Char.toNat_inj.1 (eq_of_toDigits_eq (by decide) (by decide) hdigits), hrest⟩
    | itself hbackslash _ => exact absurd (List.cons.inj h).1.symm hbackslash
  | itself hbackslash _ =>
    cases hy with
    | letter _ => exact absurd (List.cons.inj h).1 hbackslash
    | codePoint => exact absurd (List.cons.inj h).1 hbackslash
    | itself _ _ => exact List.cons.inj h

end IsEscape

/-- Escaped characters up to the closing quote tell the characters and what follows. -/
theorem escapes_append_quote_inj {cs ds rest rest' : List Char}
    (h : cs.flatMap escape ++ '"' :: rest = ds.flatMap escape ++ '"' :: rest') :
    cs = ds ∧ rest = rest' := by
  -- From the left, both texts go on with one escape or both are over: no escape starts with the
  -- closing quote.
  induction cs generalizing ds with
  | nil =>
    cases ds with
    | nil => exact ⟨rfl, (List.cons.inj h).2⟩
    | cons d ds =>
      rw [List.flatMap_cons, List.append_assoc] at h
      exact absurd h.symm ((isEscape_escape d).append_ne_quote _ _)
  | cons c cs ih =>
    cases ds with
    | nil =>
      rw [List.flatMap_cons, List.append_assoc] at h
      exact absurd h ((isEscape_escape c).append_ne_quote _ _)
    | cons d ds =>
      rw [List.flatMap_cons, List.flatMap_cons, List.append_assoc, List.append_assoc] at h
      obtain ⟨rfl, hfollowing⟩ := (isEscape_escape c).eq_of_append_eq (isEscape_escape d) h
      obtain ⟨rfl, hrest⟩ := ih hfollowing
      exact ⟨rfl, hrest⟩

/-- A quoted text with anything behind it tells both. -/
theorem quote_append_inj {cs ds rest rest' : List Char}
    (h : quote cs ++ rest = quote ds ++ rest') : cs = ds ∧ rest = rest' := by
  have hopen : ∀ es following : List Char,
      quote es ++ following = '"' :: (es.flatMap escape ++ '"' :: following) := by
    intro es following
    simp only [quote, List.cons_append, List.append_assoc, List.nil_append]
  rw [hopen, hopen] at h
  exact escapes_append_quote_inj (List.cons.inj h).2

end LogicLexer.Text
