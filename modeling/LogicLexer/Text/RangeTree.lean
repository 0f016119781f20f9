/-!
# Search trees of character ranges

A character class of Unicode is a few hundred closed ranges of code points. `RangeTree.ofRanges`
turns their ascending list into a balanced search tree, and `RangeTree.contains` looks a code point
up in it. `ranges_ofRanges` says that no range is lost on the way, and `contains_iff` that, for
ascending ranges, a look-up finds exactly the members of the list's ranges.
-/

namespace LogicLexer.Text

/-- Closed ranges of code points, as a search tree. -/
inductive RangeTree where
  /-- No range. -/
  | empty
  /-- The range from `first` to `last`, between the ranges below it and those above it. -/
  | node (left : RangeTree) (first last : Nat) (right : RangeTree)

namespace RangeTree

/-- The ranges of a tree, from the lowest to the highest. -/
def ranges : RangeTree → List (Nat × Nat)
  | empty => []
  | node left first last right => left.ranges ++ (first, last) :: right.ranges

/-- Whether a code point lies in one of the ranges. -/
def contains : RangeTree → Nat → Bool
  | empty, _ => false
  | node left first last right, c =>
    if c < first then left.contains c else if last < c then right.contains c else true

/-- A tree of at most the given height from the front of a list, and the ranges that it has no
room for. -/
def take : Nat → List (Nat × Nat) → RangeTree × List (Nat × Nat)
  | 0, rs => (empty, rs)
  | height + 1, rs =>
    match take height rs with
    | (left, []) => (left, [])
    | (left, (first, last) :: rest) =>
      let (right, rest) := take height rest
      (node left first last right, rest)

/-- The balanced tree of a list of ranges: a tree of height `h` has room for `2 ^ h - 1` of them. -/
def ofRanges (rs : List (Nat × Nat)) : RangeTree :=
  (take (rs.length.log2 + 1) rs).1

/-- The tree and the ranges left over are the list. -/
theorem ranges_take_append (height : Nat) (rs : List (Nat × Nat)) :
    (take height rs).1.ranges ++ (take height rs).2 = rs := by
  induction height generalizing rs with
  | zero => rfl
  | succ height ih =>
    have hl := ih rs
    unfold take
    split
    · rename_i left h
      simpa [h] using hl
    · rename_i left first last rest h
      have hr := ih rest
      rw [h] at hl
      simp only [ranges, List.append_assoc, List.cons_append]
      rw [hr]
      exact hl

/-- A tree of height `h` takes `2 ^ h - 1` ranges, or all of them. -/
theorem length_take (height : Nat) (rs : List (Nat × Nat)) :
    (take height rs).2.length = rs.length - (Nat.pow 2 height - 1) := by
  induction height generalizing rs with
  | zero => simp [take]
  | succ height ih =>
    have hl := ih rs
    have hpow : 1 ≤ Nat.pow 2 height := Nat.one_le_two_pow
    have hsucc : Nat.pow 2 (height + 1) = Nat.pow 2 height * 2 := rfl
    unfold take
    split
    · rename_i left h
      rw [h] at hl
      simp only [List.length_nil] at hl ⊢
      omega
    · rename_i left first last rest h
      rw [h] at hl
      have hr := ih rest
      simp only [List.length_cons] at hl hr ⊢
      omega

/-- The tree of a list holds every range of the list, in order. -/
theorem ranges_ofRanges (rs : List (Nat × Nat)) : (ofRanges rs).ranges = rs := by
  have h := ranges_take_append (rs.length.log2 + 1) rs
  have hn := length_take (rs.length.log2 + 1) rs
  have hlt : rs.length < Nat.pow 2 (rs.length.log2 + 1) := Nat.lt_log2_self
  have : (take (rs.length.log2 + 1) rs).2 = [] := List.eq_nil_of_length_eq_zero (by omega)
  rw [this, List.append_nil] at h
  exact h

/-- Ranges that ascend and do not overlap. -/
def Ascending : List (Nat × Nat) → Prop :=
  List.Pairwise fun r s => r.2 < s.1

/-- In a tree of ascending ranges, a look-up finds exactly the members of the ranges. -/
theorem contains_iff (t : RangeTree) (h : Ascending t.ranges) (hr : ∀ r ∈ t.ranges, r.1 ≤ r.2)
    (c : Nat) : t.contains c = true ↔ ∃ r ∈ t.ranges, r.1 ≤ c ∧ c ≤ r.2 := by
  induction t with
  | empty => simp [contains, ranges]
  | node left first last right ihl ihr =>
    simp only [Ascending, ranges, List.pairwise_append, List.pairwise_cons] at h
    obtain ⟨hl, ⟨hfr, hright⟩, hcross⟩ := h
    simp only [ranges, List.mem_append, List.mem_cons] at hr
    have hmid := hr (first, last) (by simp)
    have ihl := ihl hl fun r hm => hr r (Or.inl hm)
    have ihr := ihr hright fun r hm => hr r (Or.inr (Or.inr hm))
    simp only [contains, ranges, List.mem_append, List.mem_cons]
    split
    · rename_i hlt
      rw [ihl]
      constructor
      · rintro ⟨r, hm, hc⟩
        exact ⟨r, Or.inl hm, hc⟩
      · rintro ⟨r, hm | rfl | hm, hc⟩
        · exact ⟨r, hm, hc⟩
        · simp only at hc; omega
        · have := hfr r hm
          simp only at this hmid; omega
    · split
      · rename_i hge hlt
        rw [ihr]
        constructor
        · rintro ⟨r, hm, hc⟩
          exact ⟨r, Or.inr (Or.inr hm), hc⟩
        · rintro ⟨r, hm | rfl | hm, hc⟩
          · have := hcross r hm (first, last) (by simp)
            simp only at this hmid; omega
          · simp only at hc; omega
          · exact ⟨r, hm, hc⟩
      · rename_i hge hle
        simp only [true_iff]
        exact ⟨(first, last), Or.inr (Or.inl rfl), by simp only; omega, by simp only; omega⟩

end RangeTree

end LogicLexer.Text
