import LogicLexer.Proofs.Line

/-!
# The line and the column of a position

The place of a byte position is the one way to write the text as ended lines, a line, and what is
below, such that the position lies as many characters into the line as the column says
(`Place.IsAt`). Just the boundaries below the end of the text have a place, the place gives the
position back, and places come in the order of their positions (`place_isAt`).

The search goes along the lines, and a text is cut line by line, so both are undone step by step:
what the search finds is a line with lines above it (`Place.among?_eq_some`), and what the cut
leaves as lines above are ended lines (`exists_append_of_lines_eq`).
-/

namespace LogicLexer

open Text

/-- A line with a line feed at its end and nowhere else. -/
def IsEnded (line : List Char) : Prop :=
  line.getLast? = some '\n' ∧ '\n' ∉ line.dropLast

instance (line : List Char) : Decidable (IsEnded line) :=
  inferInstanceAs (Decidable (line.getLast? = some '\n' ∧ '\n' ∉ line.dropLast))

/-- A place is at a position of a text that is the lines above it, its own line, and what is
below. -/
structure Place.IsAt (place : Place) (text : String) (position : Nat) (above : List (List Char))
    (below : List Char) : Prop where
  /-- These parts are the text. -/
  text_eq : above.flatten ++ place.content ++ below = text.toList
  /-- The number of the line counts the lines from one. -/
  line_eq : place.line = above.length + 1
  /-- The lines above are ended. -/
  isEnded : ∀ line ∈ above, IsEnded line
  /-- In the line there is a line feed at most at its end. -/
  lineFeed_notMem : '\n' ∉ place.content.dropLast
  /-- The line is ended or the last one. -/
  ended_or_last : below = [] ∨ place.content.getLast? = some '\n'
  /-- The place is in the line, which so has a character. -/
  column_lt : place.column < place.content.length
  /-- The column counts the characters in front of the position. -/
  position_eq : position =
    byteLength above.flatten + byteLength (place.content.take place.column)

/-! ## Cutting a text into lines, and back -/

/-- A line is cut off where it is ended, or where the text ends. -/
theorem lines_content_append {content below : List Char} (hne : content ≠ [])
    (hfeed : '\n' ∉ content.dropLast) (hstop : below = [] ∨ content.getLast? = some '\n') :
    lines (content ++ below) = content :: lines below := by
  obtain ⟨front, c, hcontent⟩ := (List.eq_nil_or_concat content).resolve_left hne
  rw [List.concat_eq_append] at hcontent
  subst hcontent
  rw [List.dropLast_concat] at hfeed
  rw [List.getLast?_concat] at hstop
  by_cases hc : c = '\n'
  · subst hc
    exact lines_line_append hfeed (Or.inl rfl) hne
  · -- The line is not ended, so nothing is below it.
    obtain rfl := hstop.resolve_right fun h => hc (Option.some.inj h)
    have hline : '\n' ∉ front ++ [c] := by simp [hfeed, Ne.symm hc]
    have hcut := @lines_line_append (front ++ [c]) [] [] hline (Or.inr ⟨rfl, rfl⟩) (by simp)
    rwa [List.append_nil (front ++ [c])] at hcut

/-- A line that is cut off is ended, or the text ends with it. -/
theorem exists_append_of_lines_eq_cons {cs content : List Char} {more : List (List Char)}
    (h : lines cs = content :: more) :
    ∃ below, cs = content ++ below ∧ more = lines below ∧ '\n' ∉ content.dropLast ∧
      (below = [] ∨ content.getLast? = some '\n') := by
  obtain ⟨ending, below, hcs, hending⟩ := exists_firstLine_append cs
  have hfirst := lineFeed_notMem_firstLine cs
  have hne : firstLine cs ++ ending ≠ [] := by
    intro hnil
    rcases hending with rfl | ⟨-, rfl⟩
    · exact absurd hnil (by simp)
    · rw [hcs, hnil] at h
      exact absurd h (by simp [lines])
  have hcut := lines_line_append hfirst hending hne
  rw [← hcs, h] at hcut
  obtain ⟨rfl, rfl⟩ := List.cons.inj hcut
  refine ⟨below, hcs, rfl, ?_, ?_⟩
  · rcases hending with rfl | ⟨rfl, -⟩
    · rwa [List.dropLast_concat]
    · rw [List.append_nil]
      exact fun hmem => hfirst (List.dropLast_subset _ hmem)
  · rcases hending with rfl | ⟨-, rfl⟩
    · exact Or.inr List.getLast?_concat
    · exact Or.inl rfl

/-- Ended lines are cut off one by one. -/
theorem lines_flatten_append {above : List (List Char)} (h : ∀ line ∈ above, IsEnded line)
    (rest : List Char) : lines (above.flatten ++ rest) = above ++ lines rest := by
  induction above with
  | nil => rfl
  | cons line above ih =>
    obtain ⟨⟨hlast, hfeed⟩, habove⟩ := List.forall_mem_cons.1 h
    have hne : line ≠ [] := by
      rintro rfl
      exact absurd hlast (by simp)
    rw [List.flatten_cons, List.append_assoc, lines_content_append hne hfeed (Or.inr hlast),
      ih habove, List.cons_append]

/-- All lines that are cut off in front of a line are ended. -/
theorem exists_append_of_lines_eq {cs content : List Char} {above more : List (List Char)}
    (h : lines cs = above ++ content :: more) :
    (∀ line ∈ above, IsEnded line) ∧ ∃ below, cs = above.flatten ++ content ++ below ∧
      '\n' ∉ content.dropLast ∧ (below = [] ∨ content.getLast? = some '\n') := by
  induction above generalizing cs with
  | nil =>
    obtain ⟨below, hcs, -, hfeed, hstop⟩ := exists_append_of_lines_eq_cons h
    exact ⟨List.forall_mem_nil _, below, hcs, hfeed, hstop⟩
  | cons line above ih =>
    obtain ⟨rest, hcs, hmore, hfeed, hstop⟩ := exists_append_of_lines_eq_cons h
    obtain ⟨habove, below, hrest, hcontent⟩ := ih hmore.symm
    -- The line in front has another one behind it.
    have hne : rest ≠ [] := by
      rintro rfl
      exact absurd hmore (by simp [lines])
    refine ⟨List.forall_mem_cons.2 ⟨⟨hstop.resolve_left hne, hfeed⟩, habove⟩, below, ?_, hcontent⟩
    rw [hcs, hrest, List.flatten_cons, List.append_assoc, List.append_assoc, List.append_assoc]

/-! ## Finding a place, and back -/

/-- What is found among lines is a place on one of them. -/
theorem Place.among?_eq_some {number offset : Nat} {ls : List (List Char)} {place : Place}
    (h : among? number ls offset = some place) :
    ∃ above below, ls = above ++ place.content :: below ∧ place.line = number + above.length ∧
      place.column < place.content.length ∧
      offset = byteLength above.flatten + byteLength (place.content.take place.column) := by
  induction ls generalizing number offset with
  | nil => exact absurd h (by simp [among?])
  | cons line ls ih =>
    rw [among?] at h
    split at h
    case isTrue hlt =>
      obtain ⟨⟨before, after⟩, hcut, rfl⟩ := Option.map_eq_some_iff.1 h
      obtain ⟨rfl, rfl⟩ := splitAtByte?_eq_some_iff.1 hcut
      refine ⟨[], ls, rfl, rfl, ?_, ?_⟩
      · rw [byteLength_append] at hlt
        have hafter : after ≠ [] := by
          rintro rfl
          exact Nat.lt_irrefl _ hlt
        rw [List.length_append]
        exact Nat.lt_add_of_pos_right (List.length_pos_iff.2 hafter)
      · rw [List.take_left, List.flatten_nil, byteLength_nil, Nat.zero_add]
    case isFalse hge =>
      -- The line is one of those above the place.
      obtain ⟨above, below, rfl, hline, hcolumn, hoffset⟩ := ih h
      refine ⟨line :: above, below, rfl, ?_, hcolumn, ?_⟩
      · rw [hline, List.length_cons]
        omega
      · rw [List.flatten_cons, byteLength_append]
        omega

/-- The place of a position is at the position. -/
theorem Place.exists_isAt {text : String} {position : Nat} {place : Place}
    (h : at? text position = some place) : ∃ above below, place.IsAt text position above below := by
  obtain ⟨above, more, hlines, hline, hcolumn, hposition⟩ := among?_eq_some h
  obtain ⟨habove, below, htext, hfeed, hstop⟩ := exists_append_of_lines_eq hlines
  exact ⟨above, below, htext.symm, by omega, habove, hfeed, hstop, hcolumn, hposition⟩

namespace Place.IsAt

variable {place : Place} {text : String} {position : Nat} {above : List (List Char)}
  {below : List Char}

/-- A place at a position is found there. -/
theorem at?_eq (h : place.IsAt text position above below) : at? text position = some place := by
  have hne : place.content ≠ [] := List.ne_nil_of_length_pos (Nat.zero_lt_of_lt h.column_lt)
  have hlines : lines text.toList = above ++ place.content :: lines below := by
    rw [← h.text_eq, List.append_assoc, lines_flatten_append h.isEnded,
      lines_content_append hne h.lineFeed_notMem h.ended_or_last]
  have hparts : place.content.take place.column ++ place.content.drop place.column =
      place.content := List.take_append_drop _ _
  have hcut := splitAtByte?_eq_some_iff.2 ⟨hparts, rfl⟩
  have hlt : byteLength (place.content.take place.column) < byteLength place.content := by
    have hpos : byteLength (place.content.drop place.column) ≠ 0 := fun hzero =>
      absurd (List.drop_eq_nil_iff.1 (byteLength_eq_zero_iff.1 hzero)) (Nat.not_le.2 h.column_lt)
    have hsum := congrArg byteLength hparts
    rw [byteLength_append] at hsum
    omega
  have hcolumn : (place.content.take place.column).length = place.column :=
    List.length_take_of_le (Nat.le_of_lt h.column_lt)
  rw [Place.at?, hlines, h.position_eq, among?_append 1 above _ _ hlt, hcut, Option.map_some]
  dsimp only
  rw [hcolumn, Nat.add_comm, ← h.line_eq]

/-- In front of the position stand the lines above and the front of the line, and something stands
behind it. -/
theorem exists_append (h : place.IsAt text position above below) :
    ∃ before after, before ++ after = text.toList ∧ after ≠ [] ∧ byteLength before = position := by
  refine ⟨above.flatten ++ place.content.take place.column,
    place.content.drop place.column ++ below, ?_, ?_, ?_⟩
  · rw [← h.text_eq, List.append_assoc, ← List.append_assoc (place.content.take _),
      List.take_append_drop, List.append_assoc]
  · exact List.append_ne_nil_of_left_ne_nil
      (fun hnil => absurd (List.drop_eq_nil_iff.1 hnil) (Nat.not_le.2 h.column_lt)) _
  · rw [byteLength_append, h.position_eq]

end Place.IsAt

/-- Just the boundaries below the end of a text have places. -/
theorem Place.exists_at?_eq_iff {text : String} {position : Nat} :
    (∃ place, at? text position = some place) ↔
      position < text.utf8ByteSize ∧ IsBoundary text position := by
  constructor
  · rintro ⟨place, hplace⟩
    obtain ⟨above, below, hat⟩ := exists_isAt hplace
    obtain ⟨before, after, htext, hne, rfl⟩ := hat.exists_append
    refine ⟨?_, before, after, htext, rfl⟩
    have hpos : byteLength after ≠ 0 := fun hzero => hne (byteLength_eq_zero_iff.1 hzero)
    rw [← byteLength_toList, ← htext, byteLength_append]
    omega
  · rintro ⟨hlt, before, after, htext, rfl⟩
    have hne : after ≠ [] := by
      rintro rfl
      rw [← byteLength_toList, ← htext, List.append_nil] at hlt
      exact Nat.lt_irrefl _ hlt
    obtain ⟨ending, -, -, -, hplace⟩ := at?_of_append htext hne
    exact ⟨_, hplace⟩

/-! ## The order of places -/

/-- A place is told by the line feeds in front of its position and by the last line there. -/
theorem Place.exists_of_at?_eq {text : String} {position : Nat} {place : Place}
    (h : at? text position = some place) :
    ∃ before after, before ++ after = text.toList ∧ byteLength before = position ∧
      place.line = before.count '\n' + 1 ∧ place.column = (lastLine before).length := by
  obtain ⟨above, below, hat⟩ := exists_isAt h
  obtain ⟨before, after, htext, hne, rfl⟩ := hat.exists_append
  obtain ⟨ending, -, -, -, hplace⟩ := at?_of_append htext hne
  obtain rfl := Option.some.inj (h.symm.trans hplace)
  exact ⟨before, after, htext, rfl, rfl, rfl⟩

/-- Places come in the order of their positions: by lines, and on one line by columns. -/
theorem Place.lt_of_at?_eq {text : String} {p q : Nat} {place place' : Place}
    (hp : at? text p = some place) (hq : at? text q = some place') (h : p < q) :
    place.line < place'.line ∨ place.line = place'.line ∧ place.column < place'.column := by
  obtain ⟨before, after, htext, rfl, hline, hcolumn⟩ := exists_of_at?_eq hp
  obtain ⟨before', after', htext', rfl, hline', hcolumn'⟩ := exists_of_at?_eq hq
  obtain ⟨inside, rfl, -⟩ :=
    exists_append_of_byteLength_le (htext.trans htext'.symm) (Nat.le_of_lt h)
  rw [hline, hline', hcolumn, hcolumn', List.count_append]
  -- The text between the positions holds a line feed, or it lengthens the last line.
  by_cases hfeed : '\n' ∈ inside
  · have hpos : 0 < inside.count '\n' := List.count_pos_iff.2 hfeed
    exact Or.inl (by omega)
  · have hne : inside ≠ [] := by
      rintro rfl
      rw [List.append_nil] at h
      exact Nat.lt_irrefl _ h
    refine Or.inr ⟨by rw [List.count_eq_zero.2 hfeed, Nat.add_zero], ?_⟩
    rw [lastLine_append before hfeed, List.length_append]
    exact Nat.lt_add_of_pos_right (List.length_pos_iff.2 hne)

/-- The place that is found for a position is the one at it, with the line feeds in front counted,
and there is none only at the end of the text, beyond it, or inside a character. The line and the
column tell the position, and they come in the order of positions. -/
theorem place_isAt (text : String) :
    (∀ position place, Place.at? text position = some place ↔
      ∃ above below, place.IsAt text position above below) ∧
    (∀ position, Place.at? text position = none ↔
      text.utf8ByteSize ≤ position ∨ ¬ IsBoundary text position) ∧
    (∀ (position : Nat) (place place' : Place) (above above' : List (List Char))
      (below below' : List Char),
      place.IsAt text position above below → place'.IsAt text position above' below' →
      place = place') ∧
    (∀ before after place, before ++ after = text.toList →
      Place.at? text (byteLength before) = some place → place.line = before.count '\n' + 1) ∧
    (∀ p q place place', Place.at? text p = some place → Place.at? text q = some place' →
      (place.line = place'.line → place.column = place'.column → p = q) ∧
      (p < q → place.line < place'.line ∨
        place.line = place'.line ∧ place.column < place'.column)) := by
  refine ⟨fun position place => ⟨Place.exists_isAt, fun ⟨_, _, hat⟩ => hat.at?_eq⟩,
    fun position => ?_, fun position place place' _ _ _ _ hat hat' => ?_,
    fun before after place htext hplace => ?_, fun p q place place' hp hq => ⟨?_, ?_⟩⟩
  · rw [← Nat.not_lt, ← Classical.not_and_iff_not_or_not, ← Place.exists_at?_eq_iff, not_exists,
      Option.eq_none_iff_forall_ne_some]
  · exact Option.some.inj (hat.at?_eq.symm.trans hat'.at?_eq)
  · obtain ⟨front, back, htext', hbytes, hline, -⟩ := Place.exists_of_at?_eq hplace
    obtain ⟨inside, rfl, -⟩ :=
      exists_append_of_byteLength_le (htext'.trans htext.symm) (Nat.le_of_eq hbytes)
    have hnil : inside = [] := by
      rw [byteLength_append] at hbytes
      exact byteLength_eq_zero_iff.1 (by omega)
    rw [hline, hnil, List.append_nil]
  · -- Of two positions one would have the lesser place.
    intro hline hcolumn
    rcases Nat.lt_trichotomy p q with hlt | heq | hgt
    · rcases Place.lt_of_at?_eq hp hq hlt with hless | ⟨-, hless⟩ <;> omega
    · exact heq
    · rcases Place.lt_of_at?_eq hq hp hgt with hless | ⟨-, hless⟩ <;> omega
  · exact Place.lt_of_at?_eq hp hq

/-- The end of a first line, a blank line behind it, and the last line, which is not ended; inside
the first character there is no place. -/
theorem place_isAt_blankLine :
    let text := "é\n\nxy"
    let first : Place := ⟨1, ['é', '\n'], 1⟩
    let blank : Place := ⟨2, ['\n'], 0⟩
    let last : Place := ⟨3, ['x', 'y'], 1⟩
    first.IsAt text 2 [] ['\n', 'x', 'y'] ∧ blank.IsAt text 3 [['é', '\n']] ['x', 'y'] ∧
      Place.at? text 2 = some first ∧ Place.at? text 3 = some blank ∧
      (∃ above below, last.IsAt text 5 above below) ∧ ¬ IsBoundary text 1 ∧
      blank.line = ['é', '\n'].count '\n' + 1 ∧
      (first.line < blank.line ∨ first.line = blank.line ∧ first.column < blank.column) := by
  intro text first blank last
  have hfirst : first.IsAt text 2 [] ['\n', 'x', 'y'] := by
    constructor <;> decide +kernel
  have hblank : blank.IsAt text 3 [['é', '\n']] ['x', 'y'] := by
    constructor <;> decide +kernel
  obtain ⟨hat, hnone, -, hcount, horder⟩ := place_isAt text
  have hp : Place.at? text 2 = some first := (hat 2 first).2 ⟨_, _, hfirst⟩
  have hq : Place.at? text 3 = some blank := (hat 3 blank).2 ⟨_, _, hblank⟩
  have hinside : ¬ IsBoundary text 1 :=
    ((hnone 1).1 (by decide +kernel)).resolve_left (by decide +kernel)
  exact ⟨hfirst, hblank, hp, hq, (hat 5 last).1 (by decide +kernel), hinside,
    hcount ['é', '\n'] ['\n', 'x', 'y'] blank (by decide +kernel) hq,
    (horder 2 3 first blank hp hq).2 (by decide)⟩

end LogicLexer
