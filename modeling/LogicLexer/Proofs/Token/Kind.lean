import LogicLexer.Proofs.Text.LetterCase
import LogicLexer.Proofs.Text.Trimming
import LogicLexer.Token.Kind

/-!
# The spellings of a kind

A kind is spelled by its name between any blanks, up to the case of ASCII letters
(`Kind.IsSpelledBy`). These are the texts that are read as the kind, and all others are refused by a
message that quotes them (`Kind.parse_readsSpellings`). Two facts carry this. A text is read by the
capitals of what stands between the blanks at its ends (`Kind.parse_eq_ok_iff`), so that it may be
spelled with other blanks and in other cases. And a name is a word of capitals, so that trimming
finds it between blanks as it is (`Kind.trim_of_sameButCase`).
-/

namespace LogicLexer

open Text

namespace Kind

/-! ## Names -/

/-- A kind is looked up by its name. -/
theorem mem_byName_iff {name : String} {k : Kind} : (name, k) ∈ byName ↔ name = k.name := by
  rw [byName_eq_map_all, List.mem_map]
  constructor
  · rintro ⟨l, -, h⟩
    obtain ⟨rfl, rfl⟩ := Prod.mk.inj h
    rfl
  · rintro rfl
    exact ⟨k, k.mem_all, rfl⟩

/-- The characters of a name are capitals and underscores. -/
theorem of_mem_name {k : Kind} {c : Char} (h : c ∈ k.name.toList) :
    0x41 ≤ c.toNat ∧ c.toNat ≤ 0x5F := by
  have hall : (k.name.toList.all fun c => 0x41 ≤ c.toNat && c.toNat ≤ 0x5F) = true := by
    cases k <;> rfl
  simpa using List.all_eq_true.1 hall c h

/-- A name is written in capitals. -/
theorem map_toUpper_name (k : Kind) : k.name.toList.map Char.toUpper = k.name.toList := by
  cases k <;> rfl

/-- What is a name but for its case has no blank in it. -/
theorem isWhiteSpace_of_sameButCase {k : Kind} {word : List Char}
    (h : SameButCase word k.name.toList) {c : Char} (hc : c ∈ word) : isWhiteSpace c = false := by
  have hcapital : c.toUpper ∈ k.name.toList := by
    rw [← map_toUpper_name, ← sameButCase_iff.1 h]
    exact List.mem_map_of_mem hc
  obtain ⟨hfirst, hlast⟩ := of_mem_name hcapital
  rw [← isWhiteSpace_toUpper]
  exact isWhiteSpace_of_letter hfirst (by omega)

/-! ## Reading -/

/-- A text is read by its capitals, without the blanks around it. -/
theorem parse_eq_ok_iff {text : String} {k : Kind} :
    parse text = .ok k ↔ (trim text.toList).map Char.toUpper = k.name.toList := by
  constructor
  · intro h
    simp only [parse] at h
    split at h
    · next name l hfind =>
      obtain rfl := Except.ok.inj h
      have hname : name.toList == (trim text.toList).map Char.toUpper :=
        List.find?_some (p := fun entry : String × Kind => entry.1.toList == _) hfind
      rw [← eq_of_beq hname, mem_byName_iff.1 (List.mem_of_find?_eq_some hfind)]
    · cases h
  · intro h
    simp only [parse, h]
    -- What is found for a name of its own is the kind.
    cases k <;> rfl

/-- A text that is refused is given back as it is. -/
theorem eq_of_parse_eq_error {text : String} {e : UnknownKind} (h : parse text = .error e) :
    e = ⟨text⟩ := by
  simp only [parse] at h
  split at h
  · cases h
  · exact (Except.error.inj h).symm

/-- Texts with the same capitals between their blanks are read as the same kind, or both refused. -/
theorem toOption_parse_eq {text text' : String}
    (h : (trim text.toList).map Char.toUpper = (trim text'.toList).map Char.toUpper) :
    (parse text).toOption = (parse text').toOption := by
  simp only [parse, h]
  cases byName.find? fun entry => entry.1.toList == (trim text'.toList).map Char.toUpper with
  | none => rfl
  | some entry => rfl

/-! ## Spelling -/

/-- A text spells a kind that it names between blanks, up to the case of ASCII letters. -/
def IsSpelledBy (k : Kind) (text : String) : Prop :=
  ∃ left word right : String, text = left ++ word ++ right ∧
    (∀ c ∈ left.toList, isWhiteSpace c = true) ∧ (∀ c ∈ right.toList, isWhiteSpace c = true) ∧
    SameButCase word.toList k.name.toList

/-- A word that is a name but for its case is found between blanks. -/
theorem trim_of_sameButCase {k : Kind} {left word right : List Char}
    (hleft : ∀ c ∈ left, isWhiteSpace c = true) (hright : ∀ c ∈ right, isWhiteSpace c = true)
    (h : SameButCase word k.name.toList) : trim (left ++ word ++ right) = word := by
  have hne : word ≠ [] := by
    rintro rfl
    have hnil : k.name.toList = [] := List.forall₂_nil_left_iff.1 h
    exact absurd hnil (by cases k <;> decide)
  have hword : ∀ c ∈ word, isWhiteSpace c = false := fun c hc => isWhiteSpace_of_sameButCase h hc
  exact (trim_eq_iff hne hword).2 ⟨left, right, hleft, hright, rfl⟩

/-- The texts that are read as a kind are its spellings. -/
theorem parse_eq_ok_iff_isSpelledBy {text : String} {k : Kind} :
    parse text = .ok k ↔ k.IsSpelledBy text := by
  rw [parse_eq_ok_iff]
  constructor
  · intro h
    obtain ⟨left, right, hleft, hright, htext⟩ := exists_blanks_append_trim text.toList
    refine ⟨String.ofList left, String.ofList (trim text.toList), String.ofList right, ?_, ?_⟩
    · rw [← String.ofList_append, ← String.ofList_append, ← htext, String.ofList_toList]
    · simp only [String.toList_ofList]
      exact ⟨hleft, hright, by rw [sameButCase_iff, h, map_toUpper_name]⟩
  · rintro ⟨left, word, right, rfl, hleft, hright, hword⟩
    rw [String.toList_append, String.toList_append, trim_of_sameButCase hleft hright hword,
      sameButCase_iff.1 hword, map_toUpper_name]

/-- How a text is read as a kind, said by what it spells. -/
structure ReadsSpellings (text : String) : Prop where
  /-- The text is read as the kind that it spells. -/
  accepts : ∀ k : Kind, parse text = .ok k ↔ k.IsSpelledBy text
  /-- If it spells none, it is refused by a message that quotes it as it is. -/
  refuses : (∀ k : Kind, ¬ k.IsSpelledBy text) →
    ∃ e, parse text = .error e ∧ e.message = "unknown token kind `" ++ text ++ "`"
  /-- It does not spell two kinds. -/
  unique : ∀ k l : Kind, k.IsSpelledBy text → l.IsSpelledBy text → k = l
  /-- More blanks around it and other cases of its letters do not matter. -/
  respelled : ∀ left right other : String, (∀ c ∈ left.toList, isWhiteSpace c = true) →
    (∀ c ∈ right.toList, isWhiteSpace c = true) → SameButCase other.toList text.toList →
    (parse (left ++ other ++ right)).toOption = (parse text).toOption
  /-- With a character beyond ASCII that is no blank, it is no kind. -/
  ascii : ∀ c ∈ text.toList, 0x80 ≤ c.toNat → isWhiteSpace c = false → ∀ k, parse text ≠ .ok k

/-- Kinds are read by their spellings, and only by these. -/
theorem parse_readsSpellings (text : String) : ReadsSpellings text := by
  constructor
  case accepts => exact fun k => parse_eq_ok_iff_isSpelledBy
  case refuses =>
    intro hnone
    cases h : parse text with
    | ok k => exact absurd (parse_eq_ok_iff_isSpelledBy.1 h) (hnone k)
    | error e =>
      obtain rfl := eq_of_parse_eq_error h
      exact ⟨_, rfl, rfl⟩
  case unique =>
    intro k l hk hl
    rw [← parse_eq_ok_iff_isSpelledBy] at hk hl
    exact Except.ok.inj (hk.symm.trans hl)
  case respelled =>
    intro left right other hleft hright hother
    apply toOption_parse_eq
    -- Capitals are as blank as their characters, so they may be taken before the blanks go.
    calc (trim (left ++ other ++ right).toList).map Char.toUpper
        = (trim other.toList).map Char.toUpper := by
          rw [String.toList_append, String.toList_append, trim_append_blanks hright,
            trim_blanks_append hleft]
      _ = trim (other.toList.map Char.toUpper) := (trim_map isWhiteSpace_toUpper _).symm
      _ = trim (text.toList.map Char.toUpper) := by rw [sameButCase_iff.1 hother]
      _ = (trim text.toList).map Char.toUpper := trim_map isWhiteSpace_toUpper _
  case ascii =>
    intro c hc hbeyond hblank k h
    -- The character is its own capital, so it would stand in the name.
    have hmem := List.mem_map_of_mem (f := Char.toUpper) (mem_trim hc hblank)
    rw [parse_eq_ok_iff.1 h, toUpper_eq_self (by omega)] at hmem
    have hname := of_mem_name hmem
    omega

/-- The dotless letter has a capital of ASCII by the rules of Unicode, and the wide space is a
blank. -/
example : (parse "\u2003Float\n").toOption = some .float ∧ (parse "\u0131d").toOption = none := by
  decide +kernel

end Kind

end LogicLexer
