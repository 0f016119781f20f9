/-!
# The symbol table

The names of a text in the order in which they were first met, and beside them the index of each
name, to look it up by. A name keeps its index for good, so the table only grows: `names_intern`
says by what. The two parts say the same, and so an index and its name determine each other
(`get?_eq_some_iff`).
-/

namespace LogicLexer

/-- The indices give each name of a list its place there, and no other. -/
def Indexes (indices : List (String × Nat)) (names : List String) : Prop :=
  ∀ name index, indices.lookup name = some index ↔ names[index]? = some name

/-- A name without an index gets the place behind the names. -/
theorem Indexes.concat {indices : List (String × Nat)} {names : List String}
    (h : Indexes indices names) {name : String} (hnew : indices.lookup name = none) :
    Indexes ((name, names.length) :: indices) (names ++ [name]) := by
  intro name' index
  have hplaces : (names ++ [name])[index]? = some name' ↔
      names[index]? = some name' ∨ index = names.length ∧ name = name' := by
    rcases Nat.lt_trichotomy index names.length with hlt | rfl | hgt
    · rw [List.getElem?_append_left hlt]
      have hne : index ≠ names.length := Nat.ne_of_lt hlt
      simp [hne]
    · simp
    · have hne : index ≠ names.length := Nat.ne_of_gt hgt
      have hle : names.length ≤ index := Nat.le_of_lt hgt
      rw [List.getElem?_eq_none (by simp; omega), List.getElem?_eq_none hle]
      simp [hne]
  rw [hplaces, List.lookup_cons, ← h]
  by_cases hname : name' = name
  · subst hname
    simp [hnew, eq_comm]
  · rw [beq_false_of_ne hname]
    simp [Ne.symm hname]

/-- The distinct names met so far. -/
structure SymbolTable where
  /-- The names, in the order of their first occurrence. -/
  names : List String
  /-- The indices of the names. -/
  indices : List (String × Nat)
  /-- The indices are those of the names. -/
  indexes : Indexes indices names
deriving DecidableEq

namespace SymbolTable

/-- The table without names. -/
def empty : SymbolTable :=
  ⟨[], [], fun _ _ => by simp⟩

/-- The index of a name. -/
def get? (t : SymbolTable) (name : String) : Option Nat :=
  t.indices.lookup name

/-- The name at an index. -/
def name? (t : SymbolTable) (index : Nat) : Option String :=
  t.names[index]?

/-- The number of names. -/
def size (t : SymbolTable) : Nat :=
  t.names.length

/-- Whether the table has no names. -/
def isEmpty (t : SymbolTable) : Bool :=
  t.names.isEmpty

/-- The table with a name at its end, unless it has the name. -/
def insert (t : SymbolTable) (name : String) : SymbolTable :=
  if h : t.get? name = none then
    ⟨t.names ++ [name], (name, t.size) :: t.indices, t.indexes.concat h⟩
  else t

/-- The index of a name, which is put at the end of the table if it is new. -/
def intern (t : SymbolTable) (name : String) : Nat × SymbolTable :=
  ((t.get? name).getD t.size, t.insert name)

/-- The names with their indices. -/
def entries (t : SymbolTable) : List (Nat × String) :=
  t.names.mapIdx fun index name => (index, name)

/-- The table as it is printed: an index and a name on each line. -/
def text (t : SymbolTable) : String :=
  String.join (t.entries.map fun (index, name) => index.repr ++ ": " ++ name ++ "\n")

/-- The printed table under its heading. -/
def listing (t : SymbolTable) : String :=
  "\nSymbol Table:\n" ++ t.text

/-- A name and its index determine each other. -/
theorem get?_eq_some_iff (t : SymbolTable) (name : String) (index : Nat) :
    t.get? name = some index ↔ t.name? index = some name :=
  t.indexes name index

/-- A name that is not in the table has no index. -/
theorem get?_eq_none_iff (t : SymbolTable) (name : String) :
    t.get? name = none ↔ name ∉ t.names := by
  rw [Option.eq_none_iff_forall_ne_some, List.mem_iff_getElem?, not_exists]
  exact forall_congr' fun index => not_congr (t.get?_eq_some_iff name index)

/-- A name is put at the end of the table, unless the table has it. -/
theorem names_intern (t : SymbolTable) (name : String) :
    (t.intern name).2.names = if name ∈ t.names then t.names else t.names ++ [name] := by
  have hnew := t.get?_eq_none_iff name
  unfold intern insert
  by_cases h : name ∈ t.names
  · rw [dif_neg (by simp [hnew, h]), if_pos h]
  · rw [dif_pos (hnew.2 h), if_neg h]

/-- The index that interning gives is that of the name in the new table. -/
theorem get?_intern (t : SymbolTable) (name : String) :
    (t.intern name).2.get? name = some (t.intern name).1 := by
  unfold intern insert
  split
  case isTrue hnew =>
    rw [hnew, get?_eq_some_iff]
    exact List.getElem?_concat_length
  case isFalse hknown =>
    obtain ⟨index, hindex⟩ := Option.ne_none_iff_exists'.1 hknown
    rw [hindex]
    rfl

end SymbolTable

end LogicLexer
