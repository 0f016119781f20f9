import LogicLexer.Text.WhiteSpace
import Mathlib.Data.List.Forall2

/-!
# The case of letters

Two texts are the same but for the case of ASCII letters exactly when they have the same capitals
(`sameButCase_iff`). The small letters of ASCII have their capitals thirty-two code points before
them (`toNat_toUpper`), and all other characters are their own capitals (`toUpper_eq_self`). So
blanks stay blanks (`isWhiteSpace_toUpper`), and a character beyond ASCII is the same as no other.
-/

namespace LogicLexer.Text

/-- A capital of ASCII and its small letter. -/
def IsCapitalOf (capital small : Char) : Prop :=
  'A'.toNat ≤ capital.toNat ∧ capital.toNat ≤ 'Z'.toNat ∧ small.toNat = capital.toNat + 0x20

/-- The characters of two texts are the same in each place, or a letter of ASCII in its two
cases. -/
def SameButCase (cs ds : List Char) : Prop :=
  List.Forall₂ (fun c d => c = d ∨ IsCapitalOf c d ∨ IsCapitalOf d c) cs ds

/-- The code point of a capital. -/
theorem toNat_toUpper (c : Char) :
    c.toUpper.toNat = if 0x61 ≤ c.toNat ∧ c.toNat ≤ 0x7A then c.toNat - 0x20 else c.toNat := by
  have hsmall : ('a'.val ≤ c.val ∧ c.val ≤ 'z'.val) ↔ 0x61 ≤ c.toNat ∧ c.toNat ≤ 0x7A := Iff.rfl
  unfold Char.toUpper
  by_cases h : 0x61 ≤ c.toNat ∧ c.toNat ≤ 0x7A
  · rw [dif_pos (hsmall.2 h), if_pos h]
    show (c.val + ('A'.val - 'a'.val)).toNat = c.toNat - 0x20
    -- What is added is the distance back to the capitals, modulo the width of a word.
    have hback : ('A'.val - 'a'.val).toNat = 4294967296 - 0x20 := by decide
    have hword : c.val.toNat = c.toNat := rfl
    rw [UInt32.toNat_add, hback, hword]
    omega
  · rw [dif_neg (fun hc => h (hsmall.1 hc)), if_neg h]

/-- A character that is no small letter of ASCII is its own capital. -/
theorem toUpper_eq_self {c : Char} (h : ¬ (0x61 ≤ c.toNat ∧ c.toNat ≤ 0x7A)) : c.toUpper = c := by
  rw [← Char.toNat_inj, toNat_toUpper, if_neg h]

/-- Characters with one capital are the same but for their case. -/
theorem toUpper_eq_toUpper_iff {c d : Char} :
    c.toUpper = d.toUpper ↔ c = d ∨ IsCapitalOf c d ∨ IsCapitalOf d c := by
  have hA : 'A'.toNat = 0x41 := rfl
  have hZ : 'Z'.toNat = 0x5A := rfl
  rw [← Char.toNat_inj, toNat_toUpper, toNat_toUpper, ← Char.toNat_inj, IsCapitalOf, IsCapitalOf,
    hA, hZ]
  split <;> split <;> omega

/-- Texts with the same capitals are the same but for the case of their letters. -/
theorem sameButCase_iff {cs ds : List Char} :
    SameButCase cs ds ↔ cs.map Char.toUpper = ds.map Char.toUpper := by
  rw [← List.forall₂_eq_eq_eq, List.forall₂_map_left_iff, List.forall₂_map_right_iff]
  simp only [toUpper_eq_toUpper_iff, SameButCase]

/-- From the capitals of ASCII to its small letters there is no blank. -/
theorem isWhiteSpace_of_letter {c : Char} (hfirst : 0x41 ≤ c.toNat) (hlast : c.toNat ≤ 0x7A) :
    isWhiteSpace c = false := by
  simp only [isWhiteSpace, List.any_eq_false, Bool.and_eq_true, decide_eq_true_eq]
  have hranges : ∀ range ∈ whiteSpaceRanges, range.2 < 0x41 ∨ 0x7A < range.1 := by decide
  intro range hmem
  have hrange := hranges range hmem
  omega

/-- The capital of a character is blank just if the character is. -/
theorem isWhiteSpace_toUpper (c : Char) : isWhiteSpace c.toUpper = isWhiteSpace c := by
  by_cases h : 0x61 ≤ c.toNat ∧ c.toNat ≤ 0x7A
  · have hcapital := toNat_toUpper c
    rw [if_pos h] at hcapital
    rw [isWhiteSpace_of_letter (by omega) h.2, isWhiteSpace_of_letter (by omega) (by omega)]
  · rw [toUpper_eq_self h]

end LogicLexer.Text
