import ParenCalc.Proofs.Run.Outcome
import ParenCalc.Proofs.Text.Numeral

namespace ParenCalc

namespace Text

def OneLine (text : String) : Prop :=
  '\n' ∉ text.toList

instance (text : String) : Decidable (OneLine text) :=
  inferInstanceAs (Decidable (¬ _))

theorem OneLine.append {text rest : String} (htext : OneLine text) (hrest : OneLine rest) :
    OneLine (text ++ rest) := by
  unfold OneLine
  rw [String.toList_append, List.mem_append]
  rintro (hmem | hmem)
  . exact htext hmem
  . exact hrest hmem

theorem oneLine_toString_nat (n : Nat) : OneLine (toString n) := by
  intro hmem
  exact absurd (isDigit_of_mem_toString_nat hmem) (by decide)

theorem oneLine_toString_int (n : Int) : OneLine (toString n) := by
  intro hmem
  rcases isDigit_or_minus_of_mem_toString hmem with hdigit | hminus
  . exact absurd hdigit (by decide)
  . exact absurd hminus (by decide)

theorem hexDigit_ne_newline (n : Nat) (h : n < 16) : hexDigit n ≠ '\n' := by
  revert n
  decide

theorem oneLine_hexDigits (width n : Nat) : OneLine (String.ofList (hexDigits width n)) := by
  unfold OneLine hexDigits
  rw [String.toList_ofList, List.mem_map]
  rintro ⟨place, -, hdigit⟩
  exact hexDigit_ne_newline _ (Nat.mod_lt _ (by decide)) hdigit

theorem Utf8.Fault.oneLine_place (fault : Utf8.Fault) : OneLine fault.place := by
  unfold place
  split
  . apply OneLine.append
    . apply OneLine.append
      . exact OneLine.append (by decide) (oneLine_hexDigits 2 _)
      . decide
    . exact oneLine_toString_nat fault.position
  . apply OneLine.append
    . apply OneLine.append
      . exact OneLine.append (by decide) (oneLine_toString_nat fault.position)
      . decide
    . exact oneLine_toString_nat _

theorem Utf8.Fault.oneLine_message (fault : Utf8.Fault) : OneLine fault.message := by
  have hreason : OneLine fault.reason.message := by
    cases fault.reason <;> decide
  unfold message
  apply OneLine.append
  . exact OneLine.append (OneLine.append (by decide) fault.oneLine_place) (by decide)
  . exact hreason

end Text

open Text

theorem ParseError.oneLine_message (error : ParseError) : OneLine error.message := by
  have hreason : OneLine error.reason.message := by
    cases error.reason <;> decide
  unfold ParseError.message Diagnostic.text
  simp only [Bool.false_eq_true, if_false]
  split
  . exact hreason
  . apply OneLine.append
    . exact OneLine.append (OneLine.append (by decide) (oneLine_toString_int _)) (by decide)
    . exact hreason

theorem Run.Reaches.oneLine_message {fault : Option Utf8.Fault} {outcome : Outcome}
    {message : String}
    (h : Run.Reaches fault outcome) (hmessage : outcome.message? = some message) :
    OneLine message := by
  cases h with
  | finished e => cases hmessage
  | malformed error =>
    cases hmessage
    exact OneLine.append (by decide) error.oneLine_message
  | undecodable found =>
    cases hmessage
    exact OneLine.append (by decide) found.oneLine_message

end ParenCalc
