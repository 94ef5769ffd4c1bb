import ParenCalc.Parser

/-!
This module contains that the parser uses its lexer only to look at the current token and to go on
to the next one. So whatever advancing keeps, all of the parser keeps.
-/

namespace ParenCalc

namespace Parser

inductive Composed : {α : Type} → Parser α → Prop
  | pure {α : Type} (a : α) : Composed (pure a : Parser α)
  | malformed {α : Type} (error : ParseError) : Composed (throw (.malformed error) : Parser α)
  | peek : Composed (lex Lexer.peek)
  | advance : Composed (lex Lexer.advance)
  | bind {α β : Type} (rule : Parser α) (next : α → Parser β) (hrule : Composed rule)
      (hnext : ∀ a, Composed (next a)) : Composed (rule >>= next)

section Rules

variable {α : Type}

theorem composed_fail (reason : ParseError.Reason) : Composed (fail reason : Parser α) := by
  unfold fail
  apply Composed.bind _ _ .peek
  intro token
  exact .malformed ⟨reason, token.position⟩

theorem composed_require (reason : ParseError.Reason) {rule : Parser (Option α)}
    (h : Composed rule) : Composed (require reason rule) := by
  unfold require
  apply Composed.bind _ _ h
  intro found
  cases found with
  | none => exact composed_fail reason
  | some a => exact .pure a

theorem composed_passing (a : α) : Composed (lex Lexer.advance >>= fun _ => pure a) :=
  .bind _ _ .advance fun _ => .pure a

theorem composed_operator : Composed operator := by
  unfold operator
  apply Composed.bind _ _ .peek
  intro token
  split
  . exact composed_passing _
  . exact .pure _

theorem composed_rightParenthesis : Composed rightParenthesis := by
  unfold rightParenthesis
  apply Composed.bind _ _ .peek
  intro token
  split
  . exact composed_passing _
  . exact .pure _

theorem composed_operation {operand : Parser (Option Expr)} (h : Composed operand) :
    Composed (operation operand) := by
  unfold operation
  apply Composed.bind _ _ .advance
  intro
  apply Composed.bind _ _ (composed_require _ h)
  intro left
  apply Composed.bind _ _ (composed_require _ composed_operator)
  intro op
  apply Composed.bind _ _ (composed_require _ h)
  intro right
  apply Composed.bind _ _ (composed_require _ composed_rightParenthesis)
  intro
  exact .pure _

theorem composed_digitOr {parenthesized : Parser Expr} (h : Composed parenthesized) :
    Composed (digitOr parenthesized) := by
  unfold digitOr
  apply Composed.bind _ _ .peek
  intro token
  split
  . exact composed_passing _
  . split
    . apply Composed.bind _ _ h
      intro e
      exact .pure _
    . exact .pure _

theorem composed_expression (limit : Nat) : Composed (expression limit) := by
  induction limit with
  | zero => exact composed_digitOr (composed_operation (composed_fail .nestedTooDeeply))
  | succ limit ih => exact composed_digitOr (composed_operation ih)

theorem composed_topLevel (limit : Nat) : Composed (topLevel limit) :=
  composed_require .noExpression (composed_expression limit)

end Rules

def leftBehind {ε α : Type} : EStateM.Result ε Lexer α → Lexer
  | .ok _ lexer => lexer
  | .error _ lexer => lexer

theorem leftBehind_lex {α : Type} (action : LexerM α) (lexer : Lexer) :
    leftBehind ((lex action).run lexer) = leftBehind (action lexer) := by
  unfold EStateM.run lex
  cases action lexer <;> rfl

theorem peek_keeps {P : Lexer → Prop}
    (hadvance : ∀ lexer, P lexer → P (leftBehind (Lexer.advance lexer)))
    {lexer : Lexer} (h : P lexer) : P (leftBehind (Lexer.peek lexer)) := by
  unfold Lexer.peek
  split
  . exact h
  . exact hadvance lexer h

theorem Composed.keeps {α : Type} {rule : Parser α} (hrule : Composed rule) {P : Lexer → Prop}
    (hadvance : ∀ lexer, P lexer → P (leftBehind (Lexer.advance lexer))) {lexer : Lexer}
    (h : P lexer) :
    P (leftBehind (rule.run lexer)) := by
  induction hrule generalizing lexer with
  | pure a => exact h
  | malformed error => exact h
  | peek =>
    rw [leftBehind_lex]
    exact peek_keeps hadvance h
  | advance =>
    rw [leftBehind_lex]
    exact hadvance lexer h
  | bind rule next hrule hnext ihrule ihnext =>
    have hleft := ihrule h
    rw [EStateM.run_bind]
    cases hrun : rule.run lexer with
    | error failure lexer' =>
      rw [hrun] at hleft
      exact hleft
    | ok a lexer' =>
      rw [hrun] at hleft
      exact ihnext a hleft

end Parser

end ParenCalc
