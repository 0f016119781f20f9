import LogicLexer.Proofs.SymbolTable.Growth
import Mathlib.Data.Finset.Card
import Mathlib.Data.List.Induction

/-!
# Tables of any names

What a symbol table holds after any calls for indices, whatever the names are: each name once, in
the order of the first calls (`FirstOccurrences`). A table represents a list of calls if all that it
answers is said by this list (`SymbolTable.Represents`), and the table behind the calls does so
(`SymbolTable.represents_after`).

A call leaves a table that represents one more call (`FirstOccurrences.concat`), and the rest is by
induction on the calls. An index that was handed out stays, since later tables only have more names
behind those of an earlier one.
-/

namespace LogicLexer

/-- The names in a list, each once and in the order in which they first occur there. -/
structure FirstOccurrences (calls names : List String) : Prop where
  /-- No name is there twice. -/
  nodup : names.Nodup
  /-- They are the names in the list. -/
  mem_iff : ∀ name, name ∈ names ↔ name ∈ calls
  /-- A name that occurs first comes first. -/
  ordered : names.Pairwise fun a b => calls.idxOf a < calls.idxOf b

/-- As the list goes on with a name, the name comes last unless it is there. -/
theorem FirstOccurrences.concat {calls names : List String} (h : FirstOccurrences calls names)
    (name : String) :
    FirstOccurrences (calls ++ [name]) (if name ∈ names then names else names ++ [name]) := by
  -- The names that are there keep their first occurrence.
  have hplace : ∀ a ∈ names, (calls ++ [name]).idxOf a = calls.idxOf a := fun a ha =>
    List.idxOf_append_of_mem ((h.mem_iff a).1 ha)
  have hordered : names.Pairwise fun a b =>
      (calls ++ [name]).idxOf a < (calls ++ [name]).idxOf b := by
    refine h.ordered.imp_of_mem fun {a b} ha hb hab => ?_
    rwa [hplace a ha, hplace b hb]
  by_cases hknown : name ∈ names
  · rw [if_pos hknown]
    refine ⟨h.nodup, fun a => ?_, hordered⟩
    rw [List.mem_append, List.mem_singleton, ← h.mem_iff]
    exact ⟨Or.inl, fun ha => ha.elim id fun heq => heq ▸ hknown⟩
  · rw [if_neg hknown]
    have hnew : name ∉ calls := fun hmem => hknown ((h.mem_iff name).2 hmem)
    have hlast : (calls ++ [name]).idxOf name = calls.length := by
      rw [List.idxOf_append, if_neg hnew, List.idxOf_cons_self, Nat.zero_add]
    refine ⟨?_, fun a => ?_, ?_⟩
    · rw [← List.concat_eq_append]
      exact h.nodup.concat hknown
    · rw [List.mem_append, List.mem_append, h.mem_iff]
    · refine List.pairwise_append.2 ⟨hordered, List.pairwise_singleton _ _, fun a ha b hb => ?_⟩
      rw [List.mem_singleton.1 hb, hplace a ha, hlast]
      exact List.idxOf_lt_length_iff.2 ((h.mem_iff a).1 ha)

namespace SymbolTable

/-- The table after a call for the index of each name in turn. -/
def after (t : SymbolTable) (calls : List String) : SymbolTable :=
  calls.foldl (fun t name => (t.intern name).2) t

/-- One more call. -/
theorem after_concat (t : SymbolTable) (calls : List String) (name : String) :
    t.after (calls ++ [name]) = ((t.after calls).intern name).2 :=
  List.foldl_append

/-- Calls put no name in front of those that are there. -/
theorem names_isPrefix_after (t : SymbolTable) (calls : List String) :
    t.names <+: (t.after calls).names := by
  induction calls generalizing t with
  | nil => exact List.prefix_rfl
  | cons name calls ih => exact (t.names_isPrefix_insert name).trans (ih _)

/-- A call for a name of the table changes nothing. -/
theorem intern_snd_of_mem {t : SymbolTable} {name : String} (h : name ∈ t.names) :
    (t.intern name).2 = t :=
  dif_neg fun hnone => (t.get?_eq_none_iff name).1 hnone h

/-- The index that a call hands out is that of the name for good. -/
theorem get?_after_intern (t : SymbolTable) (name : String) (later : List String) :
    ((t.intern name).2.after later).get? name = some (t.intern name).1 :=
  get?_of_isPrefix (names_isPrefix_after _ later) (t.get?_intern name)

/-- A name of the table is called for by the index that it has. -/
theorem intern_fst_of_get? {t : SymbolTable} {name : String} {index : Nat}
    (h : t.get? name = some index) : (t.intern name).1 = index := by
  show (t.get? name).getD t.size = index
  rw [h, Option.getD_some]

/-- The entries are the indices below the number of names, each with its name. -/
theorem map_some_entries (t : SymbolTable) :
    t.entries.map some =
      (List.range t.size).map fun index => (t.name? index).map fun name => (index, name) := by
  refine List.ext_getElem (by simp [entries, size]) fun index h _ => ?_
  have hlt : index < t.names.length := by simpa [entries] using h
  simp [entries, name?, hlt]

/-- A table answers what a list of calls says. -/
structure Represents (calls : List String) (t : SymbolTable) : Prop where
  /-- The names are those that were called for, in the order of the first calls. -/
  names : FirstOccurrences calls t.names
  /-- A name has an index exactly where the index has the name. -/
  inverse : ∀ name index, t.get? name = some index ↔ t.name? index = some name
  /-- There are as many names as different ones were called for. -/
  size : t.size = calls.toFinset.card
  /-- There are no names just if there were no calls. -/
  isEmpty : t.isEmpty = true ↔ calls = []
  /-- One more call gives the index of the name in the table behind it. -/
  answer : ∀ name, (t.intern name).2.get? name = some (t.intern name).1
  /-- It changes nothing if the name was called for. -/
  known : ∀ name ∈ calls, (t.intern name).2 = t
  /-- Otherwise the name is put behind the others. -/
  new : ∀ name, name ∉ calls →
    (t.intern name).1 = t.size ∧ (t.intern name).2.names = t.names ++ [name]
  /-- Whatever is called for then, the name keeps that index. -/
  stable : ∀ name later, ((t.intern name).2.after later).get? name = some (t.intern name).1 ∧
    (((t.intern name).2.after later).intern name).1 = (t.intern name).1
  /-- The entries are the indices below the number of names, each with its name. -/
  entries : t.entries.map some =
    (List.range t.size).map fun index => (t.name? index).map fun name => (index, name)

/-- The names after some calls are those that were called for. -/
theorem firstOccurrences_after (calls : List String) :
    FirstOccurrences calls (empty.after calls).names := by
  induction calls using List.reverseRecOn with
  | nil => exact ⟨List.nodup_nil, fun name => Iff.rfl, List.Pairwise.nil⟩
  | append_singleton calls name ih =>
    rw [after_concat, names_intern]
    exact ih.concat name

/-- The table after any calls answers what these calls say. -/
theorem represents_after (calls : List String) : (empty.after calls).Represents calls := by
  have hnames := firstOccurrences_after calls
  generalize empty.after calls = t at hnames ⊢
  have hsame : t.names.toFinset = calls.toFinset := by
    ext name
    rw [List.mem_toFinset, List.mem_toFinset, hnames.mem_iff]
  constructor
  case names => exact hnames
  case inverse => exact t.get?_eq_some_iff
  case size => rw [← hsame, List.toFinset_card_of_nodup hnames.nodup, SymbolTable.size]
  case isEmpty =>
    show t.names.isEmpty = true ↔ calls = []
    rw [List.isEmpty_iff, ← List.toFinset_eq_empty_iff, hsame, List.toFinset_eq_empty_iff]
  case answer => exact t.get?_intern
  case known => exact fun name hname => intern_snd_of_mem ((hnames.mem_iff name).2 hname)
  case new =>
    intro name hname
    have hnew : name ∉ t.names := fun hmem => hname ((hnames.mem_iff name).1 hmem)
    exact ⟨(t.intern_fst_eq_size_iff name).2 hnew, (t.names_intern name).trans (if_neg hnew)⟩
  case stable =>
    intro name later
    have hget := t.get?_after_intern name later
    exact ⟨hget, intern_fst_of_get? hget⟩
  case entries => exact t.map_some_entries

/-- The empty name and names over several lines are names like all others. -/
example : (empty.after ["", "a\nb", "", "c"]).entries = [(0, ""), (1, "a\nb"), (2, "c")] := by
  decide

end SymbolTable

end LogicLexer
