import LogicLexer.SymbolTable

/-!
# How the symbol table grows

Interning only puts names at the end of a table, so a later table starts with an earlier one, and
what an earlier table says of a name holds in the later one (`get?_of_isPrefix`). A table that other
names stand in front of grows by the same names as a table of its own, but for those that it has
already (`names_insert_of_names_eq`). The index that interning hands out is one of the table, or the
one behind it for a new name (`intern_fst_eq_size_iff`).
-/

namespace LogicLexer.SymbolTable

/-- A new name stands at the end of the names, and a known one where it stood. -/
theorem names_insert (t : SymbolTable) (name : String) :
    (t.insert name).names = if name ∈ t.names then t.names else t.names ++ [name] :=
  names_intern t name

/-- A new name stands at the end of the names. -/
theorem names_insert_of_notMem {t : SymbolTable} {name : String} (h : name ∉ t.names) :
    (t.insert name).names = t.names ++ [name] :=
  (t.names_insert name).trans (if_neg h)

/-- So the table has one entry more. -/
theorem length_entries_insert_of_notMem {t : SymbolTable} {name : String} (h : name ∉ t.names) :
    (t.insert name).entries.length = t.entries.length + 1 := by
  rw [entries, entries, List.length_mapIdx, List.length_mapIdx, names_insert_of_notMem h,
    List.length_append, List.length_singleton]

/-- A table starts with the names that it had before. -/
theorem names_isPrefix_insert (t : SymbolTable) (name : String) :
    t.names <+: (t.insert name).names := by
  rw [names_insert]
  split
  · exact List.prefix_rfl
  · exact List.prefix_append _ _

/-- A name keeps its index as the table grows. -/
theorem get?_of_isPrefix {s t : SymbolTable} (h : s.names <+: t.names) {name : String}
    {index : Nat} (hindex : s.get? name = some index) : t.get? name = some index := by
  rw [get?_eq_some_iff, name?] at hindex ⊢
  obtain ⟨more, hmore⟩ := h
  obtain ⟨hlt, -⟩ := List.getElem?_eq_some_iff.1 hindex
  rw [← hmore, List.getElem?_append_left hlt, hindex]

/-- A table that starts with other names and goes on with those of a second table, except the ones
that it has, still does so when both learn a name. -/
theorem names_insert_of_names_eq {s t : SymbolTable} {front : List String}
    (h : s.names = front ++ t.names.filter (· ∉ front)) (name : String) :
    (s.insert name).names = front ++ (t.insert name).names.filter (· ∉ front) := by
  have hmem : name ∈ s.names ↔ name ∈ front ∨ name ∈ t.names := by
    rw [h, List.mem_append, List.mem_filter, decide_eq_true_eq]
    by_cases hfront : name ∈ front
    · simp [hfront]
    · simp [hfront]
  rw [names_insert, names_insert]
  by_cases hfront : name ∈ front
  · rw [if_pos (hmem.2 (Or.inl hfront)), h]
    split
    · rfl
    · rw [List.filter_append]
      simp [hfront]
  by_cases ht : name ∈ t.names
  · rw [if_pos (hmem.2 (Or.inr ht)), if_pos ht, h]
  · have hs : name ∉ s.names := fun hs => (hmem.1 hs).elim hfront ht
    rw [if_neg hs, if_neg ht, h, List.filter_append, List.append_assoc]
    simp [hfront]

/-- Interning hands out an index of the table or the one behind it. -/
theorem intern_fst_le_size (t : SymbolTable) (name : String) : (t.intern name).1 ≤ t.size := by
  show (t.get? name).getD t.size ≤ t.size
  cases h : t.get? name with
  | none => exact Nat.le_refl _
  | some index =>
    obtain ⟨hlt, -⟩ := List.getElem?_eq_some_iff.1 ((t.get?_eq_some_iff name index).1 h)
    exact Nat.le_of_lt hlt

/-- Interning hands out the index behind the table just for a new name. -/
theorem intern_fst_eq_size_iff (t : SymbolTable) (name : String) :
    (t.intern name).1 = t.size ↔ name ∉ t.names := by
  rw [← get?_eq_none_iff]
  show (t.get? name).getD t.size = t.size ↔ _
  cases h : t.get? name with
  | none => simp
  | some index =>
    obtain ⟨hlt, -⟩ := List.getElem?_eq_some_iff.1 ((t.get?_eq_some_iff name index).1 h)
    have hne : index ≠ t.size := Nat.ne_of_lt hlt
    simp [hne]

end LogicLexer.SymbolTable
