import LogicLexer.Span

/-!
# What a span covers

`Span.textIn?` cuts a text at two byte offsets. `textIn?_eq_some_iff` says when the cut is possible
and what it gives, by the parts of the text in front of the span, in it, and behind it.
-/

namespace LogicLexer

open Text

/-- The bytes of a string are those of its characters. -/
theorem Text.byteLength_toList (text : String) : byteLength text.toList = text.utf8ByteSize := by
  suffices h : ∀ cs : List Char, byteLength cs = (String.ofList cs).utf8ByteSize by
    rw [h, String.ofList_toList]
  intro cs
  induction cs with
  | nil => rfl
  | cons c cs ih =>
    rw [byteLength_cons, ih, ← List.singleton_append, String.ofList_append,
      String.utf8ByteSize_append, ← String.singleton_eq_ofList, String.utf8ByteSize_singleton]

/-- A byte offset of a text lies between two characters, or at an end. -/
def Text.IsBoundary (text : String) (offset : Nat) : Prop :=
  ∃ before after, before ++ after = text.toList ∧ byteLength before = offset

/-- Of two fronts of a text, the one with more bytes goes on behind the other. -/
theorem Text.exists_append_of_byteLength_le {xs ys zs ws : List Char} (h : xs ++ ys = zs ++ ws)
    (hle : byteLength xs ≤ byteLength zs) : ∃ inside, zs = xs ++ inside ∧ ys = inside ++ ws := by
  rcases List.append_eq_append_iff.1 h with ⟨inside, hzs, hys⟩ | ⟨inside, hxs, hws⟩
  · exact ⟨inside, hzs, hys⟩
  · have hnil : inside = [] := by
      rw [hxs, byteLength_append] at hle
      exact byteLength_eq_zero_iff.1 (by omega)
    rw [hnil, List.append_nil] at hxs
    rw [hnil, List.nil_append] at hws
    exact ⟨[], by rw [hxs, List.append_nil], by rw [hws, List.nil_append]⟩

/-- A slice of a text is what stands between a part that ends at its start and what follows. -/
theorem Text.slice?_eq_some_iff {start stop : Nat} {cs part : List Char} :
    slice? start stop cs = some part ↔
      ∃ before after, before ++ part ++ after = cs ∧ byteLength before = start ∧
        byteLength before + byteLength part = stop := by
  unfold slice?
  split
  · rename_i hle
    simp only [Option.bind_eq_bind, Option.bind_eq_some_iff, Prod.exists,
      splitAtByte?_eq_some_iff, Option.some.injEq]
    constructor
    · rintro ⟨before, rest, ⟨rfl, hbefore⟩, p, after, ⟨rfl, hpart⟩, rfl⟩
      exact ⟨before, after, List.append_assoc .., hbefore, by omega⟩
    · rintro ⟨before, after, rfl, hbefore, hpart⟩
      exact ⟨before, part ++ after, ⟨(List.append_assoc ..).symm, hbefore⟩, part, after,
        ⟨rfl, by omega⟩, rfl⟩
  · simp only [reduceCtorEq, false_iff]
    rintro ⟨before, after, -, hbefore, hpart⟩
    omega

/-- The text that a span covers stands between a part that ends at its start and what follows. -/
theorem Span.textIn?_eq_some_iff {s : Span} {text w : String} :
    s.textIn? text = some w ↔
      ∃ before after, before ++ w.toList ++ after = text.toList ∧ byteLength before = s.start ∧
        byteLength before + byteLength w.toList = s.stop := by
  unfold Span.textIn?
  rw [Option.map_eq_some_iff, ← slice?_eq_some_iff]
  constructor
  · rintro ⟨part, hpart, rfl⟩
    rw [String.toList_ofList]
    exact hpart
  · intro h
    exact ⟨w.toList, h, String.ofList_toList⟩

end LogicLexer
