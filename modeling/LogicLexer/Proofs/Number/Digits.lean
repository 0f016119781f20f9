/-!
# Digits of any base

Up to base sixteen each digit is a character of its own, so a number is written in one way only
(`eq_of_toDigits_eq`), and what is not the character of a digit is not in it
(`exists_digit_of_mem_toDigits`). Both go by the recursion of `Nat.toDigits`, which cuts off the
last digit.
-/

namespace LogicLexer

/-- Up to sixteen, the character of a digit tells its value. -/
theorem eq_of_digitChar_eq {a b : Nat} (ha : a < 16) (hb : b < 16)
    (h : a.digitChar = b.digitChar) : a = b := by
  have hall : ∀ a < 16, ∀ b < 16, Nat.digitChar a = Nat.digitChar b → a = b := by decide
  exact hall a ha b hb h

/-- A number is written with digits of the base. -/
theorem exists_digit_of_mem_toDigits {b n : Nat} (hb : 1 < b) {c : Char}
    (h : c ∈ Nat.toDigits b n) : ∃ d < b, c = d.digitChar := by
  induction n using Nat.strongRecOn with
  | ind n ih =>
    by_cases hn : n < b
    · rw [Nat.toDigits_of_lt_base hn, List.mem_singleton] at h
      exact ⟨n, hn, h⟩
    · have hle : b ≤ n := Nat.le_of_not_lt hn
      rw [Nat.toDigits_of_base_le hb hle, List.mem_append, List.mem_singleton] at h
      rcases h with h | h
      · exact ih (n / b) (Nat.div_lt_self (by omega) hb) h
      · exact ⟨n % b, Nat.mod_lt n (by omega), h⟩

/-- The digits of a number tell the number. -/
theorem eq_of_toDigits_eq {b m n : Nat} (hb : 1 < b) (hbase : b ≤ 16)
    (h : Nat.toDigits b m = Nat.toDigits b n) : m = n := by
  induction m using Nat.strongRecOn generalizing n with
  | ind m ih =>
    -- As many digits stand for both, so either both have one digit or the last is cut off of both.
    have hone : ∀ k, k < b ↔ (Nat.toDigits b k).length ≤ 1 := fun k => by
      rw [Nat.length_toDigits_le_iff hb Nat.one_pos, Nat.pow_one]
    by_cases hm : m < b
    · have hn : n < b := by rwa [hone, ← h, ← hone]
      rw [Nat.toDigits_of_lt_base hm, Nat.toDigits_of_lt_base hn] at h
      exact eq_of_digitChar_eq (by omega) (by omega) (List.singleton_inj.1 h)
    · have hn : ¬ n < b := by rwa [hone, ← h, ← hone]
      rw [Nat.toDigits_of_base_le hb (Nat.le_of_not_lt hm),
        Nat.toDigits_of_base_le hb (Nat.le_of_not_lt hn)] at h
      obtain ⟨hfront, hlast⟩ := List.append_inj' h rfl
      have hquotient : m / b = n / b := ih (m / b) (Nat.div_lt_self (by omega) hb) hfront
      have hremainder : m % b = n % b :=
        eq_of_digitChar_eq (Nat.lt_of_lt_of_le (Nat.mod_lt m (by omega)) hbase)
          (Nat.lt_of_lt_of_le (Nat.mod_lt n (by omega)) hbase) (List.singleton_inj.1 hlast)
      calc m = b * (m / b) + m % b := (Nat.div_add_mod m b).symm
        _ = b * (n / b) + n % b := by rw [hquotient, hremainder]
        _ = n := Nat.div_add_mod n b

end LogicLexer
