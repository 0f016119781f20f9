import LogicLexer.Line
import LogicLexer.Proofs.Slice

/-!
# Places told by the text around them

`Place.at?` walks along the lines of a text. Here the place of a position is read off the text in
front of it and behind it: the line feeds in front give the number of the line, and what stands
behind the last of them gives the column (`Place.at?_of_append`). A word lies in one line, so the
line is what stands around it (`Place.at?_of_word`).

Lines in front of a line are cut off by themselves, if the last of them is ended (`lines_append`),
so the walk skips them as a whole (`Place.among?_append`) and goes on in the line of the position.
-/

namespace LogicLexer

open Text

/-- What stands behind the last line feed of a text. -/
def lastLine (cs : List Char) : List Char :=
  (cs.reverse.takeWhile (· != '\n')).reverse

/-- What stands in front of the first line feed of a text. -/
def firstLine (cs : List Char) : List Char :=
  cs.takeWhile (· != '\n')

/-- No line of the text goes on behind it. -/
def EndsLine (cs : List Char) : Prop :=
  ∀ c ∈ cs.getLast?, c = '\n'

/-! ## Cutting a text into lines -/

/-- A text is lines that are ended, and its last line. -/
theorem exists_lines_append_lastLine (cs : List Char) :
    ∃ above, cs = above ++ lastLine cs ∧ EndsLine above := by
  refine ⟨(cs.reverse.dropWhile (· != '\n')).reverse, ?_, fun c hc => ?_⟩
  · rw [lastLine, ← List.reverse_append, List.takeWhile_append_dropWhile, List.reverse_reverse]
  · rw [List.getLast?_reverse] at hc
    have hstop := List.head?_dropWhile_not (· != '\n') cs.reverse
    rw [Option.mem_def.1 hc] at hstop
    simpa using hstop

/-- There is no line feed in the last line. -/
theorem lineFeed_notMem_lastLine (cs : List Char) : '\n' ∉ lastLine cs := by
  intro h
  have hline := List.all_eq_true.1 List.all_takeWhile _ (List.mem_reverse.1 h)
  exact absurd hline (by decide)

/-- A text is its first line, the line feed that ends it unless the text ends with it, and what is
below. -/
theorem exists_firstLine_append (cs : List Char) :
    ∃ ending below, cs = firstLine cs ++ ending ++ below ∧
      (ending = ['\n'] ∨ ending = [] ∧ below = []) := by
  have hsplit : firstLine cs ++ cs.dropWhile (· != '\n') = cs := List.takeWhile_append_dropWhile
  have hstop := List.head?_dropWhile_not (· != '\n') cs
  cases hback : cs.dropWhile (· != '\n') with
  | nil =>
    rw [hback] at hsplit
    exact ⟨[], [], by rw [List.append_assoc, List.nil_append, hsplit], Or.inr ⟨rfl, rfl⟩⟩
  | cons c below =>
    rw [hback] at hsplit hstop
    obtain rfl : c = '\n' := by simpa using hstop
    exact ⟨['\n'], below, by rw [List.append_assoc, List.singleton_append, hsplit], Or.inl rfl⟩

/-- There is no line feed in the first line. -/
theorem lineFeed_notMem_firstLine (cs : List Char) : '\n' ∉ firstLine cs := by
  intro h
  have hline := List.all_eq_true.1 List.all_takeWhile _ h
  exact absurd hline (by decide)

/-- A part of a text without a line feed goes on with its last line. -/
theorem lastLine_append (before : List Char) {inside : List Char} (h : '\n' ∉ inside) :
    lastLine (before ++ inside) = lastLine before ++ inside := by
  have hinside : ∀ c ∈ inside.reverse, (c != '\n') = true := fun c hc =>
    bne_iff_ne.2 fun heq => h (heq ▸ List.mem_reverse.1 hc)
  rw [lastLine, List.reverse_append, List.takeWhile_append_of_pos hinside, List.reverse_append,
    List.reverse_reverse, lastLine]

/-- And in front of a text it starts its first line. -/
theorem firstLine_append {inside : List Char} (h : '\n' ∉ inside) (after : List Char) :
    firstLine (inside ++ after) = inside ++ firstLine after :=
  List.takeWhile_append_of_pos fun _ hc => bne_iff_ne.2 fun heq => h (heq ▸ hc)

/-- A line feed in front of a text is a line. -/
theorem lines_cons_lineFeed (cs : List Char) : lines ('\n' :: cs) = ['\n'] :: lines cs := by
  rw [lines, if_pos rfl]

/-- Any other character in front of a text goes to its first line. -/
theorem lines_cons_of_ne {c : Char} {cs line : List Char} {more : List (List Char)}
    (hc : c ≠ '\n') (hlines : lines cs = line :: more) :
    lines (c :: cs) = (c :: line) :: more := by
  rw [lines, if_neg hc, hlines]

/-- A text that is not empty has a first line. -/
theorem exists_lines_eq_cons {cs : List Char} (h : cs ≠ []) :
    ∃ line more, lines cs = line :: more := by
  refine List.exists_cons_of_ne_nil fun hnil => h ?_
  rw [← flatten_lines cs, hnil]
  rfl

/-- Lines that are ended are so from any place on. -/
theorem EndsLine.of_cons {c : Char} {cs : List Char} (h : EndsLine (c :: cs)) : EndsLine cs := by
  cases cs with
  | nil => exact fun d hd => absurd hd (by simp)
  | cons d ds => exact fun e he => h e (by rwa [List.getLast?_cons_cons])

/-- Behind lines that are ended, a text is cut as it is by itself. -/
theorem lines_append {above : List Char} (h : EndsLine above) (rest : List Char) :
    lines (above ++ rest) = lines above ++ lines rest := by
  induction above with
  | nil => rfl
  | cons c cs ih =>
    by_cases hc : c = '\n'
    · subst hc
      rw [List.cons_append, lines_cons_lineFeed, ih h.of_cons, lines_cons_lineFeed,
        List.cons_append]
    · cases cs with
      | nil => exact absurd (h c rfl) hc
      | cons d ds =>
        obtain ⟨line, more, hlines⟩ := exists_lines_eq_cons (List.cons_ne_nil d ds)
        have hsame := ih h.of_cons
        rw [hlines] at hsame
        rw [lines_cons_of_ne hc hlines, List.cons_append, lines_cons_of_ne hc hsame]
        rfl

/-- Lines that are ended are as many as their line feeds. -/
theorem length_lines {above : List Char} (h : EndsLine above) :
    (lines above).length = above.count '\n' := by
  induction above with
  | nil => rfl
  | cons c cs ih =>
    by_cases hc : c = '\n'
    · subst hc
      rw [lines_cons_lineFeed, List.length_cons, ih h.of_cons, List.count_cons_self]
    · cases cs with
      | nil => exact absurd (h c rfl) hc
      | cons d ds =>
        obtain ⟨line, more, hlines⟩ := exists_lines_eq_cons (List.cons_ne_nil d ds)
        have hlength := ih h.of_cons
        rw [hlines] at hlength
        rw [lines_cons_of_ne hc hlines, List.count_cons_of_ne hc, ← hlength]
        rfl

/-- A line without a line feed inside it is cut off where it is ended, or where the text ends. -/
theorem lines_line_append {line ending below : List Char} (hline : '\n' ∉ line)
    (hending : ending = ['\n'] ∨ ending = [] ∧ below = []) (hne : line ++ ending ≠ []) :
    lines (line ++ ending ++ below) = (line ++ ending) :: lines below := by
  induction line with
  | nil =>
    rcases hending with rfl | ⟨rfl, rfl⟩
    · rfl
    · exact absurd rfl hne
  | cons c cs ih =>
    obtain ⟨hc, hcs⟩ := List.ne_and_not_mem_of_not_mem_cons hline
    by_cases hnil : cs ++ ending = []
    · -- The character is the last one of the text.
      obtain ⟨rfl, rfl⟩ := List.append_eq_nil_iff.1 hnil
      obtain ⟨-, rfl⟩ := hending.resolve_left (by simp)
      exact if_neg (Ne.symm hc)
    · exact lines_cons_of_ne (Ne.symm hc) (ih hcs hnil)

/-! ## Finding a place -/

/-- A place is found in the line that it stands on, behind the lines above. -/
theorem Place.among?_append (number : Nat) (above : List (List Char)) (line : List Char)
    (below : List (List Char)) {offset : Nat} (h : offset < byteLength line) :
    Place.among? number (above ++ line :: below) (byteLength above.flatten + offset) =
      (splitAtByte? offset line).map
        fun (before, _) => ⟨number + above.length, line, before.length⟩ := by
  induction above generalizing number with
  | nil =>
    rw [List.flatten_nil, byteLength_nil, Nat.zero_add, List.nil_append, among?, if_pos h]
    rfl
  | cons first above ih =>
    rw [List.cons_append, List.flatten_cons, byteLength_append, among?, if_neg (by omega),
      Nat.add_assoc, Nat.add_sub_cancel_left, ih, List.length_cons, Nat.add_right_comm,
      Nat.add_assoc]

/-- Behind each part of a text but the whole there is a place, which the text around it tells: the
line feeds in front count the lines, and the line goes on from the last of them to the next. -/
theorem Place.at?_of_append {text : String} {before after : List Char}
    (htext : before ++ after = text.toList) (hne : after ≠ []) :
    ∃ ending, (∀ c ∈ ending, c = '\n') ∧ firstLine after ++ ending <+: after ∧
      firstLine after ++ ending ≠ [] ∧
      Place.at? text (byteLength before) =
        some ⟨before.count '\n' + 1, lastLine before ++ (firstLine after ++ ending),
          (lastLine before).length⟩ := by
  obtain ⟨above, hbefore, habove⟩ := exists_lines_append_lastLine before
  obtain ⟨ending, below, hafter, hending⟩ := exists_firstLine_append after
  have hleft := lineFeed_notMem_lastLine before
  have hright := lineFeed_notMem_firstLine after
  have hfront : firstLine after ++ ending ≠ [] := by
    intro hnil
    rcases hending with rfl | ⟨-, rfl⟩
    · exact absurd hnil (by simp)
    · exact hne (by rw [hafter, hnil, List.append_nil])
  refine ⟨ending, ?_, ⟨below, hafter.symm⟩, hfront, ?_⟩
  · rcases hending with rfl | ⟨rfl, -⟩
    · simp
    · simp
  generalize lastLine before = left at *
  generalize firstLine after = right at *
  subst hbefore hafter
  -- The lines of the text are those above, the line of the place, and those below.
  have hline : '\n' ∉ left ++ right := by simp [hleft, hright]
  have hlines : lines text.toList = lines above ++ (left ++ (right ++ ending)) :: lines below := by
    rw [← List.append_assoc left, ← htext,
      ← lines_line_append hline hending (by rw [List.append_assoc]; simp [hfront]),
      ← lines_append habove]
    simp only [List.append_assoc]
  have hlt : byteLength left < byteLength (left ++ (right ++ ending)) := by
    have hpos : byteLength (right ++ ending) ≠ 0 := fun h => hfront (byteLength_eq_zero_iff.1 h)
    rw [byteLength_append left]
    omega
  have hcut : splitAtByte? (byteLength left) (left ++ (right ++ ending)) =
      some (left, right ++ ending) :=
    splitAtByte?_eq_some_iff.2 ⟨rfl, rfl⟩
  have hcount : (above ++ left).count '\n' = above.count '\n' := by
    rw [List.count_append, List.count_eq_zero.2 hleft, Nat.add_zero]
  have hfound := Place.among?_append 1 (lines above) _ (lines below) hlt
  rw [flatten_lines, hcut, length_lines habove] at hfound
  rw [Place.at?, hlines, byteLength_append, hfound, hcount, Nat.add_comm 1]
  rfl

/-- The place of a word, by the text in front of it and behind it. -/
theorem Place.at?_of_word {text : String} {before word after : List Char}
    (htext : before ++ word ++ after = text.toList) (hne : word ≠ []) (hword : '\n' ∉ word) :
    ∃ ending, (∀ c ∈ ending, c = '\n') ∧
      Place.at? text (byteLength before) =
        some ⟨before.count '\n' + 1, lastLine before ++ word ++ firstLine after ++ ending,
          (lastLine before).length⟩ := by
  obtain ⟨ending, hending, -, -, hplace⟩ :=
    Place.at?_of_append ((List.append_assoc ..).symm.trans htext) (by simp [hne])
  rw [firstLine_append hword, ← List.append_assoc, ← List.append_assoc] at hplace
  exact ⟨ending, hending, hplace⟩

end LogicLexer
