import LogicLexer.Proofs.Scanner.Run
import LogicLexer.Proofs.Text.Trimming
import LogicLexer.Session

/-!
# Passes of a session through its source

A session goes through the tokens of its source again and again. A pass over `n` tokens takes
`n + 1` requests: one for each token, and one that finds none and goes back to the top. So the
number of requests so far, modulo `n + 1`, tells all of the state of a session (`after_ofSource`),
and what the session prints next (`handle_after`). Inputs that ask for no token do not count,
whether they end the session or not. A choice is made by its digit between blanks, and by nothing
else (`MenuChoice.parse?_eq_some_iff`).

`atRequest` is the session at a request as this says it is. One request leads to the next one
(`nextToken_atRequest`), and the rest is by induction on the inputs.
-/

namespace LogicLexer

open Text

namespace MenuChoice

/-- The digit of a choice in the menu. -/
def digit : MenuChoice → Char
  | nextToken => '1'
  | showSymbols => '2'
  | exit => '3'

/-- An input makes the choice whose digit it is between blanks. -/
theorem parse?_eq_some_iff {input : String} {choice : MenuChoice} :
    parse? input = some choice ↔ ∃ left right, (∀ c ∈ left, isWhiteSpace c = true) ∧
      (∀ c ∈ right, isWhiteSpace c = true) ∧ input.toList = left ++ [choice.digit] ++ right := by
  have hdigit : isWhiteSpace choice.digit = false := by cases choice <;> decide +kernel
  have htrim : parse? input = some choice ↔ trim input.toList = [choice.digit] := by
    unfold parse?
    split <;> cases choice <;> simp_all [digit]
  rw [htrim, trim_eq_iff (List.cons_ne_nil _ _) (List.forall_mem_singleton.2 hdigit)]

end MenuChoice

namespace Session

variable (source : Source)

/-- The session behind some inputs, the ones behind an exit among them. -/
def after (s : Session) (inputs : List String) : Session :=
  inputs.foldl (fun s input => (s.handle input).session) s

/-- The number of inputs that ask for a token. -/
def requests (inputs : List String) : Nat :=
  inputs.countP fun input => MenuChoice.parse? input = some .nextToken

/-- The number of tokens that the present pass has handed out when so many requests have been
made. -/
def place (count : Nat) : Nat :=
  count % ((tokenize source.text).1.length + 1)

/-- The session when so many requests have been made. -/
def atRequest (count : Nat) : Session :=
  ⟨source, source.scanner.after (place source count)⟩

/-- A pass hands out no more tokens than there are. -/
theorem place_le (count : Nat) : place source count ≤ (tokenize source.text).1.length :=
  Nat.le_of_lt_succ (Nat.mod_lt _ (Nat.succ_pos _))

/-- In front of a token, a request takes the session one token further. -/
theorem place_succ_of_lt {count : Nat} (h : place source count < (tokenize source.text).1.length) :
    place source (count + 1) = place source count + 1 := by
  unfold place at h ⊢
  generalize (tokenize source.text).1.length = n at h ⊢
  calc (count + 1) % (n + 1) = (count % (n + 1) + 1) % (n + 1) := (Nat.mod_add_mod _ _ _).symm
    _ = count % (n + 1) + 1 := Nat.mod_eq_of_lt (by omega)

/-- Behind the last token, a request takes the session to the top. -/
theorem place_succ_of_eq {count : Nat} (h : place source count = (tokenize source.text).1.length) :
    place source (count + 1) = 0 := by
  unfold place at h ⊢
  generalize (tokenize source.text).1.length = n at h ⊢
  calc (count + 1) % (n + 1) = (count % (n + 1) + 1) % (n + 1) := (Nat.mod_add_mod _ _ _).symm
    _ = (n + 1) % (n + 1) := by rw [h]
    _ = 0 := Nat.mod_self _

/-- What a request prints when a pass has handed out a number of tokens. -/
def requestLine (place : Nat) : String :=
  match (tokenize source.text).1[place]? with
  | some token => token.text ++ "\n"
  | none => "End of file reached.\n"

/-- A request in front of a token prints it. -/
theorem requestLine_of_lt {place : Nat} (h : place < (tokenize source.text).1.length) :
    requestLine source place = (tokenize source.text).1[place].text ++ "\n" := by
  rw [requestLine, List.getElem?_eq_getElem h]

/-- A request behind the last token prints that there is none. -/
theorem requestLine_of_le {place : Nat} (h : (tokenize source.text).1.length ≤ place) :
    requestLine source place = "End of file reached.\n" := by
  rw [requestLine, List.getElem?_eq_none h]

/-- A session prints the token that its scanner finds, and goes on behind it. -/
theorem nextToken_of_next_eq_some {s : Session} {t : Token} {s' : Scanner}
    (h : s.scanner.next = (some t, s')) :
    s.nextToken = ⟨t.text ++ "\n", .goOn, ⟨s.source, s'⟩⟩ := by
  rw [nextToken, h]

/-- A session goes back to the top when its scanner finds no token. -/
theorem nextToken_of_next_eq_none {s : Session} {s' : Scanner} (h : s.scanner.next = (none, s')) :
    s.nextToken = ⟨"End of file reached.\n", .goOn, ofSource s.source⟩ := by
  rw [nextToken, h]

/-- A request prints the line of its place in the pass, and leads to the next request. -/
theorem nextToken_atRequest (count : Nat) :
    (atRequest source count).nextToken =
      ⟨requestLine source (place source count), .goOn, atRequest source (count + 1)⟩ := by
  have htoken : (source.scanner.after (place source count)).next.1 =
      (tokenize source.text).1[place source count]? :=
    source.scanner.next_fst_after _
  have hbehind := source.scanner.after_succ (place source count)
  rcases h : (source.scanner.after (place source count)).next with ⟨_ | t, s'⟩
  · -- There is no token, so the pass is over.
    rw [h] at htoken
    have hle := List.getElem?_eq_none_iff.1 htoken.symm
    have hend : place source count = (tokenize source.text).1.length :=
      Nat.le_antisymm (place_le source count) hle
    have htop : atRequest source (count + 1) = ofSource source := by
      rw [atRequest, place_succ_of_eq source hend]
      rfl
    rw [nextToken_of_next_eq_none h, requestLine_of_le source hle, htop]
    rfl
  · rw [h] at htoken hbehind
    obtain ⟨hlt, ht⟩ := List.getElem?_eq_some_iff.1 htoken.symm
    have hnext : atRequest source (count + 1) = ⟨source, s'⟩ := by
      rw [atRequest, place_succ_of_lt source hlt, hbehind]
    rw [nextToken_of_next_eq_some h, requestLine_of_lt source hlt, ht, hnext]
    rfl

/-- An input that asks for no token leaves the session as it is. -/
theorem session_handle_of_ne {s : Session} {input : String}
    (h : MenuChoice.parse? input ≠ some .nextToken) : (s.handle input).session = s := by
  unfold handle
  split
  · contradiction
  · rfl
  · rfl
  · rfl

/-- An input that does not leave the menu goes on. -/
theorem flow_handle_of_ne {s : Session} {input : String}
    (h : MenuChoice.parse? input ≠ some .exit) : (s.handle input).flow = .goOn := by
  unfold handle
  split
  · unfold nextToken
    split <;> rfl
  · rfl
  · contradiction
  · rfl

/-- The number of requests tells the state of a session. -/
theorem after_ofSource (inputs : List String) :
    (ofSource source).after inputs = atRequest source (requests inputs) := by
  -- The requests that were made before are carried through the induction.
  suffices h : ∀ count, (atRequest source count).after inputs =
      atRequest source (count + requests inputs) by
    have htop := h 0
    rw [Nat.zero_add, atRequest, place, Nat.zero_mod] at htop
    exact htop
  induction inputs with
  | nil => exact fun count => rfl
  | cons input inputs ih =>
    intro count
    show ((atRequest source count).handle input).session.after inputs = _
    rw [requests, List.countP_cons, ← requests]
    by_cases hnext : MenuChoice.parse? input = some .nextToken
    · have hhandle : (atRequest source count).handle input =
          (atRequest source count).nextToken := by
        unfold handle
        rw [hnext]
      rw [hhandle, nextToken_atRequest, ih, if_pos (decide_eq_true hnext)]
      congr 1
      omega
    · rw [session_handle_of_ne hnext, ih, if_neg (by simpa using hnext), Nat.add_zero]

/-- What a session answers is what its place in the pass says. -/
theorem nextToken_after (inputs : List String) :
    ((ofSource source).after inputs).nextToken.output =
      requestLine source (place source (requests inputs)) := by
  rw [after_ofSource, nextToken_atRequest]

/-- The inputs so far decide all of a session by the number of requests among them, modulo the
length of a pass: the scanner is a fresh one after that many calls for a token. The next request
prints the token of that index, or says that there is none where all have been handed out; the
symbol table that is shown is that of the scanner; and no other input changes the session. -/
theorem handle_after (inputs : List String) :
    let tokens := (tokenize source.text).1
    let index := requests inputs % (tokens.length + 1)
    let s := (ofSource source).after inputs
    s = ⟨source, source.scanner.after index⟩ ∧
      ∀ input,
        match MenuChoice.parse? input with
        | some .nextToken =>
          (∀ h : index < tokens.length, (s.handle input).output = tokens[index].text ++ "\n") ∧
            (tokens.length ≤ index → (s.handle input).output = "End of file reached.\n")
        | some .showSymbols =>
          (s.handle input).output = (source.scanner.after index).symbols.listing ++ "\n" ∧
            (s.handle input).session = s
        | some .exit => (s.handle input).session = s
        | none => (s.handle input).session = s := by
  intro tokens index s
  have hs : s = ⟨source, source.scanner.after index⟩ := after_ofSource source inputs
  refine ⟨hs, fun input => ?_⟩
  split
  case h_1 hchoice =>
    have hhandle : (s.handle input).output = requestLine source index := by
      unfold handle
      rw [hchoice]
      exact nextToken_after source inputs
    rw [hhandle]
    exact ⟨fun h => requestLine_of_lt source h, fun h => requestLine_of_le source h⟩
  case h_2 hchoice =>
    have hsession : (s.handle input).session = s := session_handle_of_ne (by simp [hchoice])
    refine ⟨?_, hsession⟩
    unfold handle
    rw [hchoice, hs]
  case h_3 hchoice => exact session_handle_of_ne (by simp [hchoice])
  case h_4 hchoice => exact session_handle_of_ne (by simp [hchoice])

/-- In the second pass the table starts anew: it shows the first name only, although the second one
has been met in the first pass. Blanks around a digit, an exit and what is no choice do not
matter. -/
theorem handle_after_secondPass :
    let source : Source := ⟨"input.txt", "b a"⟩
    let s := (ofSource source).after ["1", " 2\n", "1", "3", "1", "4", "\t1 "]
    MenuChoice.parse? " 2\n" = some .showSymbols ∧ MenuChoice.parse? "3" = some .exit ∧
      MenuChoice.parse? "1" = some .nextToken ∧ MenuChoice.parse? "4" = none ∧
      (s.handle " 2\n").output = "\nSymbol Table:\n0: b\n\n" ∧
      (s.handle "1").output = "<ID, 1>\n" := by
  intro source s
  obtain ⟨-, hanswers⟩ := handle_after source ["1", " 2\n", "1", "3", "1", "4", "\t1 "]
  have hshow : MenuChoice.parse? " 2\n" = some .showSymbols := by decide +kernel
  have hnext : MenuChoice.parse? "1" = some .nextToken := by decide +kernel
  have hindex : requests ["1", " 2\n", "1", "3", "1", "4", "\t1 "] %
      ((tokenize source.text).1.length + 1) = 1 := by
    decide +kernel
  have htable := hanswers " 2\n"
  have htoken := hanswers "1"
  rw [hshow] at htable
  rw [hnext] at htoken
  refine ⟨hshow, by decide +kernel, hnext, by decide +kernel, ?_, ?_⟩
  · rw [htable.1, hindex]
    decide +kernel
  · have hlt : requests ["1", " 2\n", "1", "3", "1", "4", "\t1 "] %
        ((tokenize source.text).1.length + 1) < (tokenize source.text).1.length := by
      decide +kernel
    exact (htoken.1 hlt).trans ((requestLine_of_lt source hlt).symm.trans (by decide +kernel))

end Session

end LogicLexer
