import LogicLexer.Proofs.Lexeme.Ending
import Mathlib.Computability.Language

/-!
# The lexeme languages

Each form of lexeme is a regular language over the character classes, given by `Form.language` with
the operations of formal languages and without the reader. The well-formed lexemes are the words of
these languages (`mem_language_iff`), each of one language only (`form_unique`), and reading takes
the longest front of a text that is a word of any of them (`isLongestFront_read`).

Both of the last two come from `Lexeme.read_of_isValid`: a word with nothing behind it is read as a
whole, so it cannot be read in two ways, and a longer word in front of a text would show that the
lexeme read there does not end.
-/

namespace LogicLexer

open Text
open scoped Computability

/-- The forms of lexemes. -/
inductive Form where
  /-- A name. -/
  | identifier
  /-- A whole number. -/
  | integer
  /-- A number with a point. -/
  | float
  /-- Digits that go on as an identifier does. -/
  | malformedNumber
  /-- Two ampersands. -/
  | logicalAnd
  /-- Two bars. -/
  | logicalOr
  /-- One ampersand. -/
  | bitwiseAnd
  /-- One bar. -/
  | bitwiseOr
  /-- What starts as no other form. -/
  | unrecognised
deriving DecidableEq

/-- The words of one character of a class. -/
def oneOf (p : Char → Bool) : Language Char :=
  {w | ∃ c, p c = true ∧ w = [c]}

/-- The words of digits, at least one. -/
def digits : Language Char :=
  oneOf Char.isDigit * (oneOf Char.isDigit)∗

/-- A minus sign, or nothing. -/
def optionalMinus : Language Char :=
  1 + {['-']}

namespace Form

/-- The language of a form. -/
def language : Form → Language Char
  | identifier => oneOf isIdentifierStart * (oneOf isIdentifierContinue)∗
  | integer => optionalMinus * digits
  | float => optionalMinus * digits * {['.']} * (oneOf Char.isDigit)∗
  | malformedNumber => digits * oneOf isIdentifierStart * (oneOf isIdentifierContinue)∗
  | logicalAnd => {['&', '&']}
  | logicalOr => {['|', '|']}
  | bitwiseAnd => {['&']}
  | bitwiseOr => {['|']}
  | unrecognised => oneOf isSymbolStart * (oneOf isSymbolContinue)∗

/-- The words of all forms. -/
def words : Language Char :=
  {w | ∃ f : Form, w ∈ f.language}

end Form

/-- A front of a text is in a language, and no longer front is. -/
structure IsLongestFront (L : Language Char) (w cs : List Char) : Prop where
  /-- It is a front of the text. -/
  isFront : w <+: cs
  /-- It is in the language. -/
  mem : w ∈ L
  /-- Any front of the text that is in the language is at most as long. -/
  longest : ∀ p, p <+: cs → p ∈ L → p.length ≤ w.length

/-! ## Words of the languages -/

@[simp] theorem mem_word {v w : List Char} : w ∈ ({v} : Language Char) ↔ w = v :=
  Iff.rfl

/-- The words over a class are those of which every character is in it. -/
@[simp] theorem mem_kstar_oneOf {p : Char → Bool} {w : List Char} :
    w ∈ (oneOf p)∗ ↔ ∀ c ∈ w, p c = true := by
  rw [Language.mem_kstar]
  constructor
  · rintro ⟨parts, rfl, hparts⟩ c hc
    obtain ⟨part, hpart, hc⟩ := List.mem_flatten.1 hc
    obtain ⟨d, hd, rfl⟩ := hparts part hpart
    rw [List.mem_singleton.1 hc]
    exact hd
  · intro h
    refine ⟨w.map fun c => [c], (List.flatMap_singleton' w).symm, fun part hpart => ?_⟩
    obtain ⟨c, hc, rfl⟩ := List.mem_map.1 hpart
    exact ⟨c, h c hc, rfl⟩

/-- A word over one class, and another over a second class, start with a character of the first. -/
theorem mem_oneOf_mul_kstar {p q : Char → Bool} {w : List Char} :
    w ∈ oneOf p * (oneOf q)∗ ↔ ∃ c cs, w = c :: cs ∧ p c = true ∧ ∀ d ∈ cs, q d = true := by
  rw [Language.mem_mul]
  constructor
  · rintro ⟨_, ⟨c, hc, rfl⟩, cs, hcs, rfl⟩
    exact ⟨c, cs, rfl, hc, mem_kstar_oneOf.1 hcs⟩
  · rintro ⟨c, cs, rfl, hc, hcs⟩
    exact ⟨[c], ⟨c, hc, rfl⟩, cs, mem_kstar_oneOf.2 hcs, rfl⟩

/-- The words of digits are the texts of digits. -/
@[simp] theorem mem_digits {w : List Char} : w ∈ digits ↔ IsDigits w := by
  rw [digits, mem_oneOf_mul_kstar]
  constructor
  · rintro ⟨c, cs, rfl, hc, hcs⟩
    exact ⟨by simp, List.forall_mem_cons.2 ⟨hc, hcs⟩⟩
  · rintro ⟨hne, hall⟩
    cases w with
    | nil => exact absurd rfl hne
    | cons c cs => exact ⟨c, cs, rfl, List.forall_mem_cons.1 hall⟩

/-- An optional minus sign is the sign of a number. -/
@[simp] theorem mem_optionalMinus {w : List Char} :
    w ∈ optionalMinus ↔ ∃ negative, w = Lexeme.sign negative := by
  rw [optionalMinus, Language.mem_add, Language.mem_one, mem_word, Bool.exists_bool]
  rfl

/-! ## Lexemes are the words -/

namespace Lexeme

/-- The form of a lexeme. -/
def form : Lexeme → Form
  | identifier _ => .identifier
  | integer .. => .integer
  | float .. => .float
  | malformedNumber _ => .malformedNumber
  | logicalAnd => .logicalAnd
  | logicalOr => .logicalOr
  | bitwiseAnd => .bitwiseAnd
  | bitwiseOr => .bitwiseOr
  | unrecognised _ => .unrecognised

/-- The text of a well-formed lexeme is a word of its form. -/
theorem IsValid.text_mem_language {l : Lexeme} (h : l.IsValid) : l.text ∈ l.form.language := by
  cases h with
  | identifier start continues => exact mem_oneOf_mul_kstar.2 ⟨_, _, rfl, start, continues⟩
  | integer negative digits_valid =>
    exact Language.append_mem_mul (mem_optionalMinus.2 ⟨negative, rfl⟩) (mem_digits.2 digits_valid)
  | @float negative whole fraction whole_valid fraction_valid =>
    have hsign := mem_optionalMinus.2 ⟨negative, rfl⟩
    have hwhole := Language.append_mem_mul hsign (mem_digits.2 whole_valid)
    have hpoint := Language.append_mem_mul hwhole (mem_word.2 (rfl : ['.'] = ['.']))
    have hfraction := Language.append_mem_mul hpoint (mem_kstar_oneOf.2 fraction_valid)
    rw [List.append_assoc] at hfraction
    exact hfraction
  | malformedNumber digits_valid start continues =>
    have hletters := mem_oneOf_mul_kstar.2 ⟨_, _, rfl, start, continues⟩
    show _ ∈ digits * oneOf isIdentifierStart * (oneOf isIdentifierContinue)∗
    rw [mul_assoc]
    exact Language.append_mem_mul (mem_digits.2 digits_valid) hletters
  | logicalAnd => exact mem_word.2 rfl
  | logicalOr => exact mem_word.2 rfl
  | bitwiseAnd => exact mem_word.2 rfl
  | bitwiseOr => exact mem_word.2 rfl
  | unrecognised start continues => exact mem_oneOf_mul_kstar.2 ⟨_, _, rfl, start, continues⟩

/-- Each word of a form is the text of a well-formed lexeme of that form. -/
theorem exists_of_mem_language {f : Form} {w : List Char} (h : w ∈ f.language) :
    ∃ l : Lexeme, l.IsValid ∧ l.form = f ∧ l.text = w := by
  cases f with
  | identifier =>
    obtain ⟨c, cs, rfl, hc, hcs⟩ := mem_oneOf_mul_kstar.1 h
    exact ⟨identifier (c :: cs), .identifier hc hcs, rfl, rfl⟩
  | integer =>
    obtain ⟨_, hsign, ds, hds, rfl⟩ := Language.mem_mul.1 h
    obtain ⟨negative, rfl⟩ := mem_optionalMinus.1 hsign
    exact ⟨integer negative ds, .integer negative (mem_digits.1 hds), rfl, rfl⟩
  | float =>
    obtain ⟨_, hnumber, fraction, hfraction, rfl⟩ := Language.mem_mul.1 h
    obtain ⟨_, hfront, _, rfl, rfl⟩ := Language.mem_mul.1 hnumber
    obtain ⟨_, hsign, whole, hwhole, rfl⟩ := Language.mem_mul.1 hfront
    obtain ⟨negative, rfl⟩ := mem_optionalMinus.1 hsign
    refine ⟨float negative whole fraction, ?_, rfl, by simp [text]⟩
    exact .float negative (mem_digits.1 hwhole) (mem_kstar_oneOf.1 hfraction)
  | malformedNumber =>
    rw [Form.language, mul_assoc] at h
    obtain ⟨ds, hds, _, hletters, rfl⟩ := Language.mem_mul.1 h
    obtain ⟨c, cs, rfl, hc, hcs⟩ := mem_oneOf_mul_kstar.1 hletters
    exact ⟨malformedNumber (ds ++ c :: cs), .malformedNumber (mem_digits.1 hds) hc hcs, rfl, rfl⟩
  | logicalAnd => exact ⟨logicalAnd, .logicalAnd, rfl, (mem_word.1 h).symm⟩
  | logicalOr => exact ⟨logicalOr, .logicalOr, rfl, (mem_word.1 h).symm⟩
  | bitwiseAnd => exact ⟨bitwiseAnd, .bitwiseAnd, rfl, (mem_word.1 h).symm⟩
  | bitwiseOr => exact ⟨bitwiseOr, .bitwiseOr, rfl, (mem_word.1 h).symm⟩
  | unrecognised =>
    obtain ⟨c, cs, rfl, hc, hcs⟩ := mem_oneOf_mul_kstar.1 h
    exact ⟨unrecognised (c :: cs), .unrecognised hc hcs, rfl, rfl⟩

/-- The words of a form are the texts of the well-formed lexemes of that form. -/
theorem mem_language_iff {f : Form} {w : List Char} :
    w ∈ f.language ↔ ∃ l : Lexeme, l.IsValid ∧ l.form = f ∧ l.text = w := by
  constructor
  · exact exists_of_mem_language
  · rintro ⟨l, hvalid, rfl, rfl⟩
    exact hvalid.text_mem_language

/-- The words of all forms are the texts of the well-formed lexemes. -/
theorem mem_words_iff {w : List Char} :
    w ∈ Form.words ↔ ∃ l : Lexeme, l.IsValid ∧ l.text = w := by
  constructor
  · rintro ⟨f, hf⟩
    obtain ⟨l, hvalid, -, htext⟩ := exists_of_mem_language hf
    exact ⟨l, hvalid, htext⟩
  · rintro ⟨l, hvalid, rfl⟩
    exact ⟨l.form, hvalid.text_mem_language⟩

/-! ## Reading by the languages -/

/-- A well-formed lexeme is read back from its text. -/
theorem IsValid.read_text {l : Lexeme} (h : l.IsValid) :
    ∃ c cs, l.text = c :: cs ∧ read c cs = (l, []) := by
  obtain ⟨c, cs, htext⟩ := List.exists_cons_of_ne_nil h.text_ne_nil
  refine ⟨c, cs, htext, read_of_isValid h l.endsAt_nil ?_⟩
  rw [List.append_nil, htext]

/-- Well-formed lexemes with the same text are the same. -/
theorem IsValid.eq_of_text_eq {l m : Lexeme} (hl : l.IsValid) (hm : m.IsValid)
    (h : l.text = m.text) : l = m := by
  obtain ⟨c, cs, hltext, hlread⟩ := hl.read_text
  obtain ⟨d, ds, hmtext, hmread⟩ := hm.read_text
  obtain ⟨rfl, rfl⟩ := List.cons.inj (hltext.symm.trans (h.trans hmtext))
  exact congrArg Prod.fst (hlread.symm.trans hmread)

/-- No word belongs to two forms. -/
theorem form_unique {f g : Form} {w : List Char} (hf : w ∈ f.language) (hg : w ∈ g.language) :
    f = g := by
  obtain ⟨l, hl, rfl, rfl⟩ := exists_of_mem_language hf
  obtain ⟨m, hm, rfl, htext⟩ := exists_of_mem_language hg
  rw [hm.eq_of_text_eq hl htext]

/-- A lexeme that ends is at least as long as any word that the text starts with. -/
theorem length_le_of_endsAt {l : Lexeme} (hvalid : l.IsValid) {rest : List Char}
    (hends : l.EndsAt rest) {p : List Char} (hp : p <+: l.text ++ rest) (hword : p ∈ Form.words) :
    p.length ≤ l.text.length := by
  obtain ⟨m, hm, rfl⟩ := mem_words_iff.1 hword
  by_contra hlonger
  -- The longer word starts with the lexeme, which ends at what is left of the word.
  obtain ⟨more, hmore⟩ : l.text <+: m.text :=
    List.prefix_of_prefix_length_le (List.prefix_append _ _) hp (by omega)
  have hmends : l.EndsAt more := by
    obtain ⟨behind, hbehind⟩ := hp
    rw [← hmore, List.append_assoc, List.append_cancel_left_eq] at hbehind
    exact EndsAt.of_append (hbehind ▸ hends)
  obtain ⟨c, cs, htext, hread⟩ := hm.read_text
  -- So the lexeme is read from the longer word, which is read as a whole.
  have hlread := read_of_isValid hvalid hmends (hmore.trans htext)
  have hnil : more = [] := congrArg Prod.snd (hlread.symm.trans hread)
  rw [hnil, List.append_nil] at hmore
  rw [hmore] at hlonger
  exact hlonger le_rfl

/-- Reading takes the longest front of a text that is a word. -/
theorem isLongestFront_read {c : Char} (hblank : isWhiteSpace c = false) (cs : List Char) :
    IsLongestFront Form.words (read c cs).1.text (c :: cs) := by
  obtain ⟨hvalid, hends⟩ := isValid_endsAt_read hblank cs
  have happ := text_read_append c cs
  refine ⟨⟨_, happ⟩, mem_words_iff.2 ⟨_, hvalid, rfl⟩, fun p hp hword => ?_⟩
  rw [← happ] at hp
  exact length_le_of_endsAt hvalid hends hp hword

end Lexeme

end LogicLexer
