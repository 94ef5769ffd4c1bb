import ParenCalc.Proofs.Parser.Acceptance
import ParenCalc.Proofs.Parser.Decoded

namespace ParenCalc

namespace Parser

open ParenCalc.Expr Lexer

section Extends

variable {α β : Type}

def TooDeep (run : EStateM.Result Failure Lexer α) : Prop :=
  ∃ error lexer, run = .error (.malformed error) lexer ∧
    error.reason.message = "Expression nested too deeply"

def Extends (rule rule' : Parser α) : Prop :=
  ∀ lexer, TooDeep (rule.run lexer) ∨ rule'.run lexer = rule.run lexer

theorem TooDeep.bind {rule : Parser α} {lexer : Lexer} (h : TooDeep (rule.run lexer))
    (next : α → Parser β) : TooDeep ((rule >>= next).run lexer) := by
  obtain ⟨error, lexer', hrun, hmessage⟩ := h
  exact ⟨error, lexer', run_bind_error hrun, hmessage⟩

theorem Extends.refl (rule : Parser α) : Extends rule rule :=
  fun _ => .inr rfl

theorem Extends.bind {rule rule' : Parser α} {next next' : α → Parser β}
    (hrule : Extends rule rule') (hnext : ∀ a, Extends (next a) (next' a)) :
    Extends (rule >>= next) (rule' >>= next') := by
  intro lexer
  rcases hrule lexer with hdeep | hrun
  . exact .inl (hdeep.bind next)
  cases hresult : rule.run lexer with
  | error failure lexer' =>
    right
    rw [run_bind_error hresult, run_bind_error (hrun.trans hresult)]
  | ok a lexer' =>
    rw [run_bind_ok hresult, run_bind_ok (hrun.trans hresult)]
    exact hnext a lexer'

theorem Extends.require {rule rule' : Parser (Option α)} (h : Extends rule rule')
    (reason : ParseError.Reason) : Extends (require reason rule) (require reason rule') :=
  h.bind fun _ => .refl _

theorem Extends.operation {operand operand' : Parser (Option Expr)}
    (h : Extends operand operand') : Extends (operation operand) (operation operand') := by
  unfold Parser.operation
  apply Extends.bind (.refl _)
  intro
  apply Extends.bind (h.require _)
  intro left
  apply Extends.bind (.refl _)
  intro op
  apply Extends.bind (h.require _)
  intro right
  exact .refl _

theorem Extends.digitOr {parenthesized parenthesized' : Parser Expr}
    (h : Extends parenthesized parenthesized') :
    Extends (digitOr parenthesized) (digitOr parenthesized') := by
  unfold Parser.digitOr
  apply Extends.bind (.refl _)
  intro token
  split
  . exact .refl _
  . split
    . exact h.bind fun _ => .refl _
    . exact .refl _

theorem extends_fail (parenthesized : Parser Expr) :
    Extends (fail .nestedTooDeeply) (digitOr parenthesized) := by
  have hdeep {lexer lexer' : Lexer} {token : Token} (h : (lex peek).run lexer = .ok token lexer') :
      TooDeep ((fail .nestedTooDeeply : Parser (Option Expr)).run lexer) := by
    unfold fail
    rw [run_bind_ok h]
    exact ⟨_, lexer', rfl, rfl⟩
  intro lexer
  cases hcurrent : lexer.current with
  | some token => exact .inl (hdeep (run_peek_of_some hcurrent))
  | none =>
    have hpeek := run_peek_of_none hcurrent
    cases hadvance : (lex advance).run lexer with
    | ok token lexer' => exact .inl (hdeep (hpeek.trans hadvance))
    | error failure lexer' =>
      right
      unfold fail Parser.digitOr
      rw [run_bind_error (hpeek.trans hadvance), run_bind_error (hpeek.trans hadvance)]

theorem extends_expression {limit limit' : Nat} (h : limit ≤ limit') :
    Extends (expression limit) (expression limit') := by
  induction limit generalizing limit' with
  | zero =>
    cases limit' with
    | zero => exact .refl _
    | succ limit' =>
      have hfail : Extends (fail .nestedTooDeeply) (expression limit') := by
        cases limit' <;> exact extends_fail _
      exact hfail.operation.digitOr
  | succ limit ih =>
    cases limit' with
    | zero => omega
    | succ limit' => exact (ih (by omega)).operation.digitOr

end Extends

section Enclosing

variable {w : List Char} {position : Nat → Position} {state : Nat → Lexer}

theorem run_expression_render (feed : Feed w position state) (limit : Nat) {n : Nat} {e : Expr}
    {v : List Char} (h : w.drop n = e.render ++ v) :
    (expression limit).run (state (n + 1)) = .ok (some e) (state (n + e.render.length + 1)) ∨
      TooDeep ((expression limit).run (state (n + 1))) := by
  obtain ⟨result, count, hfinds, hrun⟩ := searches_expression feed limit n
  rcases hfinds.of_render h with ⟨-, rfl⟩ | ⟨-, rfl⟩
  . cases hfinds
    exact .inl hrun
  . exact .inr ⟨_, _, hrun, rfl⟩

theorem run_operator_symbol (feed : Feed w position state) {n : Nat} {op : Operator} {v : List Char}
    (h : w.drop n = op.symbol :: v) :
    operator.run (state (n + 1)) = .ok (some op) (state (n + 2)) := by
  have hhead : w[n]? = some op.symbol := by rw [← List.head?_drop, h]; rfl
  rw [run_operator feed, hhead]
  simp

theorem tooDeep_operation (feed : Feed w position state) {limit n : Nat} {inner v : List Char}
    (hinner : Awaits inner .expression) (hw : w.drop n = '(' :: inner ++ v)
    (hv : ∀ m, w.drop m = v → TooDeep ((expression limit).run (state (m + 1)))) :
    TooDeep ((operation (expression limit)).run (state (n + 1))) := by
  have hrequire {m : Nat} (h : TooDeep ((expression limit).run (state (m + 1)))) :
      TooDeep ((require .missingExpression (expression limit)).run (state (m + 1))) := h.bind _
  have hbehind : w.drop (n + 1) = inner ++ v := drop_append (u := ['(']) hw
  unfold operation
  rw [run_bind_ok (run_advance feed (n + 1))]
  rcases hinner.rendered with ⟨rfl, -⟩ | ⟨_, _, h⟩ | ⟨left, op, rfl, -⟩ | ⟨_, _, _, _, h⟩
  . exact (hrequire (hv (n + 1) hbehind)).bind _
  . cases h
  . rw [List.append_assoc] at hbehind
    have hop := drop_append hbehind
    -- The left operand may be too deep as well, and is then what is reported.
    rcases run_expression_render feed limit hbehind with hleft | hleft
    . rw [run_bind_ok ((run_require _ _ _).trans (by rw [hleft])),
        run_bind_ok ((run_require _ _ _).trans (by rw [run_operator_symbol feed hop]))]
      exact (hrequire (hv _ (drop_append (u := [op.symbol]) hop))).bind _
    . exact (hrequire hleft).bind _
  . cases h

theorem tooDeep_of_enclosing (feed : Feed w position state) {limit n : Nat}
    {outer rest : List Char} (houter : Enclosing limit outer)
    (hw : w.drop n = outer ++ '(' :: rest) :
    TooDeep ((expression limit).run (state (n + 1))) := by
  have hparenthesis : w[n]? = some '(' := by
    rw [← List.head?_drop, hw, houter.head?_append]
  induction houter generalizing n with
  | nil =>
    have hrun := run_digitOr_parenthesis feed (operation (fail .nestedTooDeeply)) hparenthesis
    rw [run_operation_fail feed] at hrun
    exact ⟨_, _, hrun, rfl⟩
  | cons depth inner outer hinner houter ih =>
    have hrun := run_digitOr_parenthesis feed (operation (expression depth)) hparenthesis
    rw [List.append_assoc] at hw
    obtain ⟨error, lexer, hdeep, hmessage⟩ := tooDeep_operation feed hinner hw fun m hm =>
      ih hm (by rw [← List.head?_drop, hm, houter.head?_append])
    rw [hdeep] at hrun
    exact ⟨error, lexer, hrun, hmessage⟩

theorem tooDeep_program_of_enclosing (feed : Feed w position state) {limit : Nat}
    {outer rest : List Char} (houter : Enclosing limit outer) (hw : w = outer ++ '(' :: rest) :
    TooDeep ((program limit).run (state 0)) := by
  unfold program
  rw [run_expression_start feed]
  exact tooDeep_of_enclosing (n := 0) feed houter hw

end Enclosing

theorem message_eq_tooDeep_iff {reason : ParseError.Reason} :
    reason.message = "Expression nested too deeply" ↔ reason = .nestedTooDeeply := by
  cases reason <;> decide

theorem tooDeep_conclude_iff {α : Type} {result : Except ParseError.Reason α} {position : Position}
    {lexer : Lexer} :
    TooDeep (conclude result position lexer) ↔ result = .error .nestedTooDeeply := by
  cases result <;> simp [conclude, TooDeep, message_eq_tooDeep_iff]

theorem tooDeep_program_iff (limit : Nat) (text : String) :
    TooDeep ((program limit).run (.ofString text)) ↔
      ∃ v rest, v <+: unspaced text.toList ∧ rest ≠ [] ∧ Sentence (v ++ rest) ∧
        limit < openParentheses v := by
  constructor
  . intro hdeep
    obtain ⟨result, count, hfinds, hrun⟩ := searches_ofString limit text
    rw [hrun, tooDeep_conclude_iff] at hdeep
    cases hfinds with
    | expression | nothing => cases hdeep
    | gap depth outer inner rest gap => cases gap <;> cases hdeep
    | tooDeep outer rest hw houter =>
      have hopen : openParentheses (outer ++ ['(']) = limit + 1 := by
        simp [houter.openParentheses]
      obtain ⟨tail, hsentence⟩ := houter.viable Awaits.start.viable
      refine ⟨outer ++ ['('], tail, ⟨rest, by simp [hw]⟩, ?_, hsentence, by omega⟩
      -- Sentences close all parentheses.
      rintro rfl
      obtain ⟨e, he⟩ := sentence_iff.mp hsentence
      rw [List.append_nil] at he
      rw [he, openParentheses_render] at hopen
      omega
  . rintro ⟨v, rest, hprefix, -, hsentence, hopen⟩
    have hdeep : ¬ NestsWithin limit (unspaced text.toList) := by
      intro hnests
      have hwithin := hnests v hprefix ⟨rest, hsentence⟩
      omega
    obtain ⟨outer, rest, hw, houter⟩ := exists_enclosing_of_not_nestsWithin hdeep
    exact tooDeep_program_of_enclosing (feed_stateAt text.toList) houter hw

/--
The limit is a cut-off: it is reported if and only if the text has the beginning of a sentence at
its start in which more parentheses are open, whatever comes behind it. Where it is not reported,
all larger limits give the same run.
-/
theorem limit_cuts_off (limit : Nat) (text : String) :
    (TooDeep ((program limit).run (.ofString text)) ↔
      ∃ v rest, v <+: unspaced text.toList ∧ rest ≠ [] ∧ Sentence (v ++ rest) ∧
        limit < openParentheses v) ∧
    (¬ TooDeep ((program limit).run (.ofString text)) → ∀ limit', limit ≤ limit' →
      (program limit').run (.ofString text) = (program limit).run (.ofString text)) := by
  refine ⟨tooDeep_program_iff limit text, ?_⟩
  intro hdeep limit' hlimit
  exact (extends_expression hlimit (.ofString text)).resolve_left hdeep

theorem limit_cuts_off_product :
    TooDeep ((program 1).run (.ofString "((1+2)*3)")) ∧
      ¬ TooDeep ((program 2).run (.ofString "((1+2)*3)")) ∧
      (program 3).run (.ofString "((1+2)*3)") = (program 2).run (.ofString "((1+2)*3)") := by
  have hsentence : Sentence "((1+2)*3)".toList :=
    sentence_render (.binary (.binary (.digit 1) .add (.digit 2)) .multiply (.digit 3))
  have hshallow : ∀ n ≤ 9, openParentheses ((unspaced "((1+2)*3)".toList).take n) ≤ 2 := by decide
  have hdeep : ¬ TooDeep ((program 2).run (.ofString "((1+2)*3)")) := by
    rw [(limit_cuts_off 2 "((1+2)*3)").1]
    rintro ⟨v, rest, hprefix, -, -, hopen⟩
    have hopen' := hshallow v.length hprefix.length_le
    rw [← List.prefix_iff_eq_take.mp hprefix] at hopen'
    omega
  refine ⟨?_, hdeep, (limit_cuts_off 2 "((1+2)*3)").2 hdeep 3 (by decide)⟩
  exact (limit_cuts_off 1 "((1+2)*3)").1.mpr
    ⟨"((".toList, "1+2)*3)".toList, by decide, by decide, hsentence, by decide⟩

end Parser

end ParenCalc
