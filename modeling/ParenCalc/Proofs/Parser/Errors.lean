import Mathlib
import ParenCalc.Proofs.Parser.Acceptance
import ParenCalc.Proofs.Position

namespace ParenCalc

namespace Parser

open ParenCalc.Expr Lexer

/--
The token that a reported error belongs to comes right behind the beginning of a sentence, and no
sentence goes on with it. The position is that of the token, counted in lines and in characters of
the last line. What stands behind the innermost open parenthesis settles the reason.
-/
theorem program_reports_earliest_error (limit : Nat) (text : String)
    (h : NestsWithin limit (unspaced text.toList)) (error : ParseError) (lexer : Lexer)
    (hrun : (program limit).run (.ofString text) = .error (.malformed error) lexer) :
    ∃ before rest, text.toList = before ++ rest ∧
      (∀ c ∈ rest.head?, isSpace c = false) ∧
      lexer.current = some (.ofChar? rest.head? error.position) ∧
      error.position.line = 1 + before.count '\n' ∧
      error.position.column = (before.reverse.takeWhile (· != '\n')).length ∧
      Viable (unspaced before) ∧
      (∀ c ∈ rest.head?, ¬ Viable (unspaced before ++ [c])) ∧
      (∃ outer inner gap, InnermostOpen (unspaced before) outer inner ∧ Awaits inner gap) ∧
      (∀ outer inner gap, InnermostOpen (unspaced before) outer inner → Awaits inner gap →
        error.reason = gap.reason ∧ error.reason.message = "Missing " ++ gap.name) := by
  obtain ⟨result, count, hfinds, hconclude⟩ := searches_ofString limit text
  rw [hconclude] at hrun
  cases hfinds with
  | expression | nothing => cases hrun
  | tooDeep outer rest hw houter =>
    exact absurd h ((Finds.tooDeep outer rest hw houter).not_nestsWithin rfl)
  | gap depth outer inner rest gap hw hlimit houter hinner hrest =>
    simp only [conclude, EStateM.Result.error.injEq, Failure.malformed.injEq] at hrun
    obtain ⟨rfl, rfl⟩ := hrun
    generalize hcount : (outer ++ '(' :: inner).length = count at *
    -- The reported token stands between what is passed and what is ahead.
    have hbefore : unspaced (passed text.toList count) = outer ++ '(' :: inner := by
      rw [unspaced_passed, hw, ← hcount, List.take_left]
    have hhead : (ahead text.toList count).head? = rest.head? := by
      rw [head?_ahead, hw, ← hcount, ← List.head?_drop, List.drop_left]
    refine ⟨passed text.toList count, ahead text.toList count, ?_, ?_, ?_, ?_, ?_, ?_, ?_, ?_, ?_⟩
    . exact (passed_append_ahead text.toList count).symm
    . intro c hc
      exact isSpace_of_mem_head?_ahead hc
    . rw [head?_ahead]
      exact (feed_stateAt text.toList).current_succ count
    . exact Position.line_after {} _
    . exact Position.column_after _
    . rw [hbefore]
      exact houter.viable hinner.viable
    . intro c hc
      rw [hbefore]
      exact houter.not_viable hinner (hrest c (hhead ▸ hc))
    . rw [hbefore]
      exact ⟨outer, inner, gap, hinner.innermostOpen outer, hinner⟩
    . intro outer' inner' gap' hinnermost hinner'
      rw [hbefore] at hinnermost
      obtain ⟨-, rfl⟩ := hinnermost.unique (hinner.innermostOpen outer)
      rw [hinner'.unique hinner]
      exact ⟨rfl, gap.message_reason⟩

theorem program_reports_missing_operand :
    NestsWithin 9 (unspaced "((1+2) *\n)".toList) ∧
      ∃ lexer, (program 9).run (.ofString "((1+2) *\n)") =
          .error (.malformed ⟨.missingExpression, ⟨2, 0⟩⟩) lexer ∧
        ∃ before rest, "((1+2) *\n)".toList = before ++ rest ∧
          lexer.current = some (.ofChar? rest.head? ⟨2, 0⟩) ∧ Viable (unspaced before) := by
  have hnests : NestsWithin 9 (unspaced "((1+2) *\n)".toList) :=
    nestsWithin_of_length_le (by decide)
  have hrun : (program 9).run (.ofString "((1+2) *\n)") =
      .error (.malformed ⟨.missingExpression, ⟨2, 0⟩⟩) (stateAt "((1+2) *\n)".toList 8) := by
    cbv
  obtain ⟨before, rest, htext, -, hcurrent, -, -, hviable, -⟩ :=
    program_reports_earliest_error 9 "((1+2) *\n)" hnests _ _ hrun
  exact ⟨hnests, _, hrun, before, rest, htext, hcurrent, hviable⟩

end Parser

end ParenCalc
