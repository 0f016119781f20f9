import LogicLexer.Diagnostic
import LogicLexer.Proofs.Text.Quoted

/-!
# A message tells its diagnostic

The message of a diagnostic is the description of the issue, a colon, the part of the text between
quotes, and the place. No description has a colon in it, the quoted part is read in one way whatever
follows it (`Text.quote_append_inj`), and the digits of the place tell the number. So nothing is
lost in a message (`Diagnostic.message_eq_message_iff`), even if the part of the text looks like the
end of a message itself.
-/

namespace LogicLexer

namespace Issue

/-- The description tells the issue. -/
theorem description_injective {i j : Issue} (h : i.description = j.description) : i = j := by
  cases i <;> cases j <;> first | rfl | exact absurd h (by decide)

/-- A description is over at the first colon of a message. -/
theorem colon_notMem_description (i : Issue) : ':' ∉ i.description.toList := by
  cases i <;> decide

end Issue

namespace Diagnostic

/-- The characters of a message. -/
theorem toList_message (d : Diagnostic) :
    d.message.toList = d.issue.description.toList ++
      ':' :: ' ' :: (Text.quote d.lexeme.toList ++
        (" at byte ".toList ++ Nat.toDigits 10 d.position)) := by
  simp only [message, Text.quoted, String.toList_append, String.toList_ofList, Nat.toList_repr,
    List.append_assoc]
  rfl

/-- The message tells the issue, the part of the text and the place, whatever they are. -/
theorem message_eq_message_iff (issue issue' : Issue) (lexeme lexeme' : String)
    (position position' : Nat) :
    (Diagnostic.mk issue lexeme position).message =
        (Diagnostic.mk issue' lexeme' position').message ↔
      issue = issue' ∧ lexeme = lexeme' ∧ position = position' := by
  constructor
  · intro h
    have hlist := congrArg String.toList h
    rw [toList_message, toList_message] at hlist
    obtain ⟨hdescription, hbehind⟩ := append_cons_inj issue.colon_notMem_description
      issue'.colon_notMem_description hlist
    obtain ⟨hlexeme, hplace⟩ := Text.quote_append_inj (List.cons.inj hbehind).2
    have hdigits := List.append_cancel_left hplace
    exact ⟨Issue.description_injective (String.toList_inj.1 hdescription),
      String.toList_inj.1 hlexeme, eq_of_toDigits_eq (by decide) (by decide) hdigits⟩
  · rintro ⟨rfl, rfl, rfl⟩
    rfl

/-- A part of the text that looks like the end of a message is still told from it. -/
example : (Diagnostic.mk .unrecognisedSymbol "#\" at byte 7" 5).message =
    "unrecognised symbol: \"#\\\" at byte 7\" at byte 5" := by
  decide +kernel

end Diagnostic

end LogicLexer
