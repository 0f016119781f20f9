/-!
# Runs of characters

A text is cut where a run of a class of characters stops (`takeWhile_append_of_stops`,
`dropWhile_append_of_stops`), and where a separator stands for the first time (`append_cons_inj`).
-/

namespace LogicLexer

/-- The first place of a separator cuts a list in one way. -/
theorem append_cons_inj {α : Type} {c : α} {xs ys as bs : List α} (hx : c ∉ xs) (hy : c ∉ ys)
    (h : xs ++ c :: as = ys ++ c :: bs) : xs = ys ∧ as = bs := by
  induction xs generalizing ys with
  | nil =>
    cases ys with
    | nil => exact ⟨rfl, (List.cons.inj h).2⟩
    | cons y ys => exact absurd ((List.cons.inj h).1 ▸ List.mem_cons_self) hy
  | cons x xs ih =>
    cases ys with
    | nil => exact absurd ((List.cons.inj h).1 ▸ List.mem_cons_self) hx
    | cons y ys =>
      obtain ⟨rfl, hrest⟩ := List.cons.inj h
      obtain ⟨rfl, heq⟩ := ih (List.not_mem_of_not_mem_cons hx) (List.not_mem_of_not_mem_cons hy)
        hrest
      exact ⟨rfl, heq⟩

namespace Text

/-- The text does not start with a character of the class. -/
def Stops (p : Char → Bool) (cs : List Char) : Prop :=
  ∀ c ∈ cs.head?, p c = false

@[simp] theorem stops_nil (p : Char → Bool) : Stops p [] := by
  simp [Stops]

@[simp] theorem stops_cons {p : Char → Bool} {c : Char} {cs : List Char} :
    Stops p (c :: cs) ↔ p c = false := by
  simp [Stops]

/-- What is left behind a run does not go on with it. -/
theorem stops_dropWhile (p : Char → Bool) (cs : List Char) : Stops p (cs.dropWhile p) := by
  have h := List.head?_dropWhile_not p cs
  intro c hc
  rw [Option.mem_def.1 hc] at h
  exact h

/-- A text either stops at once or starts with a character of the class. -/
theorem not_stops_iff {p : Char → Bool} {cs : List Char} :
    ¬ Stops p cs ↔ ∃ c ds, cs = c :: ds ∧ p c = true := by
  cases cs with
  | nil => simp
  | cons c ds => simp

/-- The first character is in the class exactly when the text does not stop at once. -/
theorem any_head?_eq_false_iff {p : Char → Bool} {cs : List Char} :
    cs.head?.any p = false ↔ Stops p cs := by
  cases cs with
  | nil => simp
  | cons c ds => simp

/-- A run of a class stops in front of a character that is not in it. -/
theorem takeWhile_append_stops {p : Char → Bool} {ys : List Char} (h : Stops p ys)
    (xs : List Char) : (xs ++ ys).takeWhile p = xs.takeWhile p := by
  induction xs with
  | nil =>
    cases ys with
    | nil => rfl
    | cons y ys => simp [stops_cons.1 h]
  | cons x xs ih => simp only [List.cons_append, List.takeWhile_cons, ih]

/-- What is left behind a run goes on with all that follows. -/
theorem dropWhile_append_stops {p : Char → Bool} {ys : List Char} (h : Stops p ys)
    (xs : List Char) : (xs ++ ys).dropWhile p = xs.dropWhile p ++ ys := by
  induction xs with
  | nil =>
    cases ys with
    | nil => rfl
    | cons y ys => simp [stops_cons.1 h]
  | cons x xs ih =>
    simp only [List.cons_append, List.dropWhile_cons, ih]
    split <;> rfl

/-- A run that is followed by no more of its class is found as it is. -/
theorem takeWhile_append_of_stops {p : Char → Bool} {xs rest : List Char}
    (hxs : ∀ c ∈ xs, p c = true) (hrest : Stops p rest) : (xs ++ rest).takeWhile p = xs := by
  have hnone : rest.takeWhile p = [] := takeWhile_append_stops hrest []
  rw [List.takeWhile_append_of_pos hxs, hnone, List.append_nil]

/-- Behind a run that is followed by no more of its class, the rest is left. -/
theorem dropWhile_append_of_stops {p : Char → Bool} {xs rest : List Char}
    (hxs : ∀ c ∈ xs, p c = true) (hrest : Stops p rest) : (xs ++ rest).dropWhile p = rest := by
  rw [List.dropWhile_append_of_pos hxs]
  exact dropWhile_append_stops hrest []

/-- All characters of a run are in its class. -/
theorem of_mem_takeWhile {p : Char → Bool} {cs : List Char} {c : Char}
    (h : c ∈ cs.takeWhile p) : p c = true :=
  List.all_eq_true.1 List.all_takeWhile c h

/-- A text is a run of a class, and a rest that does not go on with it. -/
theorem exists_run (p : Char → Bool) (cs : List Char) :
    ∃ run rest, cs = run ++ rest ∧ (∀ c ∈ run, p c = true) ∧ Stops p rest :=
  ⟨cs.takeWhile p, cs.dropWhile p, List.takeWhile_append_dropWhile.symm,
    fun _ hc => of_mem_takeWhile hc, stops_dropWhile p cs⟩

/-- The front of a text that is a run of a class, and what stands behind it. -/
theorem exists_run_append (p : Char → Bool) (s : String) :
    ∃ rest : String, String.ofList (s.toList.takeWhile p) ++ rest = s ∧ Stops p rest.toList := by
  refine ⟨String.ofList (s.toList.dropWhile p), ?_, ?_⟩
  · rw [← String.ofList_append, List.takeWhile_append_dropWhile, String.ofList_toList]
  · rw [String.toList_ofList]
    exact stops_dropWhile p _

end Text

end LogicLexer
