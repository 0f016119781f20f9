import LogicLexer.Proofs.Text.Run
import LogicLexer.Text.WhiteSpace

/-!
# What trimming leaves

Blanks at the ends of a text do not matter to what is left of it (`trim_blanks_append`,
`trim_append_blanks`), and all else is left (`mem_trim`), so a text without blanks is found between
any others (`trim_of_word`), and is all that is left just if these are blanks (`trim_eq_iff`).
-/

namespace LogicLexer.Text

/-- Blanks at the start of a text are trimmed away. -/
theorem trim_blanks_append {blanks : List Char} (h : ∀ c ∈ blanks, isWhiteSpace c = true)
    (cs : List Char) : trim (blanks ++ cs) = trim cs := by
  rw [trim, trim, trimStart, trimStart, List.dropWhile_append_of_pos h]

/-- Blanks at the end of a text are trimmed away. -/
theorem trim_append_blanks {blanks : List Char} (h : ∀ c ∈ blanks, isWhiteSpace c = true)
    (cs : List Char) : trim (cs ++ blanks) = trim cs := by
  have hend : ∀ ds : List Char, trimEnd (ds ++ blanks) = trimEnd ds := by
    intro ds
    rw [trimEnd, List.reverse_append,
      List.dropWhile_append_of_pos fun c hc => h c (List.mem_reverse.1 hc), trimEnd]
  have hnone : trimStart blanks = [] := trimStart_eq_nil_iff.2 h
  unfold trimStart at hnone
  rw [trim, trim, trimStart, List.dropWhile_append, trimStart]
  split
  · rename_i hnil
    rw [hnone, List.isEmpty_iff.1 hnil]
  · exact hend _

/-- A character that is no blank is not trimmed away. -/
theorem mem_trim {cs : List Char} {c : Char} (hc : c ∈ cs) (h : isWhiteSpace c = false) :
    c ∈ trim cs := by
  obtain ⟨left, right, hleft, hright, hcs⟩ := exists_blanks_append_trim cs
  rw [hcs, List.mem_append, List.mem_append] at hc
  rcases hc with (hc | hc) | hc
  · exact absurd (hleft c hc) (by simp [h])
  · exact hc
  · exact absurd (hright c hc) (by simp [h])

/-- What makes no blank of other characters, and of a blank none of these, may be done before or
after trimming. -/
theorem trim_map {f : Char → Char} (hf : ∀ c, isWhiteSpace (f c) = isWhiteSpace c)
    (cs : List Char) : trim (cs.map f) = (trim cs).map f := by
  have hclass : isWhiteSpace ∘ f = isWhiteSpace := funext hf
  simp only [trim, trimEnd, trimStart, List.dropWhile_map, ← List.map_reverse, hclass]

/-- A word starts with no blank. -/
theorem stops_word {word : List Char} (hne : word ≠ [])
    (hword : ∀ c ∈ word, isWhiteSpace c = false) (rest : List Char) :
    Stops isWhiteSpace (word ++ rest) := by
  obtain ⟨c, cs, rfl⟩ := List.exists_cons_of_ne_nil hne
  exact stops_cons.2 (hword c List.mem_cons_self)

/-- Around a word, only what stands in front of it and behind it is trimmed. -/
theorem trim_of_word {word : List Char} (hne : word ≠ [])
    (hword : ∀ c ∈ word, isWhiteSpace c = false) (left right : List Char) :
    trim (left ++ word ++ right) = trimStart left ++ word ++ trimEnd right := by
  have hstart : trimStart (left ++ word ++ right) = trimStart left ++ (word ++ right) := by
    rw [List.append_assoc]
    exact dropWhile_append_stops (stops_word hne hword right) left
  have hback : Stops isWhiteSpace (word.reverse ++ (trimStart left).reverse) :=
    stops_word (List.reverse_ne_nil_iff.2 hne) (fun c hc => hword c (List.mem_reverse.1 hc)) _
  calc trim (left ++ word ++ right)
      = ((right.reverse ++ (word.reverse ++ (trimStart left).reverse)).dropWhile
          isWhiteSpace).reverse := by
        rw [trim, hstart, trimEnd]
        simp only [List.reverse_append, List.append_assoc]
    _ = trimStart left ++ word ++ trimEnd right := by
        rw [dropWhile_append_stops hback, trimEnd]
        simp only [List.reverse_append, List.reverse_reverse, List.append_assoc]

/-- A word is left of a text just if nothing but blanks stands around it. -/
theorem trim_eq_iff {word : List Char} (hne : word ≠ [])
    (hword : ∀ c ∈ word, isWhiteSpace c = false) {cs : List Char} :
    trim cs = word ↔ ∃ left right, (∀ c ∈ left, isWhiteSpace c = true) ∧
      (∀ c ∈ right, isWhiteSpace c = true) ∧ cs = left ++ word ++ right := by
  constructor
  · rintro rfl
    exact exists_blanks_append_trim cs
  · rintro ⟨left, right, hleft, hright, rfl⟩
    have htrim := trim_of_word hne hword [] []
    rw [trim_append_blanks hright, trim_blanks_append hleft]
    simpa [trimStart, trimEnd] using htrim

/-- A text with a character that is shown at its end is shown up to there. -/
theorem trimStart_append_singleton {xs : List Char} {c : Char}
    (h : ¬ ∀ e ∈ xs ++ [c], isWhiteSpace e = true) :
    trimStart (xs ++ [c]) = trimStart xs ++ [c] := by
  by_cases hxs : ∀ e ∈ xs, isWhiteSpace e = true
  · have hc : ¬ isWhiteSpace c = true := fun hc =>
      h (List.forall_mem_append.2 ⟨hxs, List.forall_mem_singleton.2 hc⟩)
    rw [trimStart_eq_nil_iff.2 hxs, trimStart, List.dropWhile_append_of_pos hxs,
      List.dropWhile_cons_of_neg hc, List.nil_append]
  · have hne : ¬ (xs.dropWhile isWhiteSpace).isEmpty = true := fun hnil =>
      hxs (trimStart_eq_nil_iff.1 (List.isEmpty_iff.1 hnil))
    rw [trimStart, List.dropWhile_append, if_neg hne, trimStart]

end LogicLexer.Text
