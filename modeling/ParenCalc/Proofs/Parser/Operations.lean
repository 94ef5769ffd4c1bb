import ParenCalc.Proofs.Lexer.Tokenization
import ParenCalc.Proofs.Parser.Runs
import ParenCalc.Proofs.Tree.Printing

namespace ParenCalc

namespace Parser

open ParenCalc.Expr Lexer

inductive Operation
  | peek
  | advance
  | operator
  | expression
  | program
  deriving DecidableEq, Repr

inductive Answer
  | token (token : Token)
  | operator (op : Option Operator)
  | expression (e : Option Expr)
  | failed (failure : Failure)
  deriving DecidableEq, Repr

namespace Operation

def action (limit : Nat) : Operation → Parser Answer
  | .peek => return .token (← lex Lexer.peek)
  | .advance => return .token (← lex Lexer.advance)
  | .operator => return .operator (← Parser.operator)
  | .expression => return .expression (← Parser.expression limit)
  | .program => return .expression (← Parser.program limit)

def perform (limit : Nat) (operation : Operation) (lexer : Lexer) : Answer × Lexer :=
  match (operation.action limit).run lexer with
  | .ok answer lexer => (answer, lexer)
  | .error failure lexer => (.failed failure, lexer)

def performAll (limit : Nat) (operations : List Operation) (lexer : Lexer) : Lexer :=
  operations.foldl (fun lexer operation => (operation.perform limit lexer).2) lexer

end Operation

def index? (lexer : Lexer) : Option Nat :=
  match lexer.lexed.length with
  | 0 => none
  | index + 1 => some index

/--
`StandsAt text index lexer` states that the current token is the one with the given index, and that
the text has been read up to its end and no further.
-/
structure StandsAt (text : String) (index : Nat) (lexer : Lexer) : Prop where
  current : lexer.current = nthToken text index
  source : ∃ before rest, text.toList = before ++ rest ∧ lexer.source = .ofText rest ∧
    unspaced before = (unspaced text.toList).take (index + 1) ∧
    (index < (unspaced text.toList).length → before.getLast? = (unspaced text.toList)[index]?) ∧
    ((unspaced text.toList).length ≤ index → rest = [])

def Stands (text : String) (lexer : Lexer) : Option Nat → Prop
  | none => lexer = .ofString text
  | some index => StandsAt text index lexer

/--
`Accounts text operation answer before after` states that the answer fits the token with the index
`after`, at which the operation leaves a parser that stood at `before`. The first use reads the
first token.
-/
inductive Accounts (text : String) :
    Operation → Answer → (before : Option Nat) → (after : Nat) → Prop
  | peek (before : Option Nat) (token : Token)
      (htoken : nthToken text (before.getD 0) = some token) :
      Accounts text .peek (.token token) before (before.getD 0)
  | advance (before : Option Nat) (token : Token)
      (htoken : nthToken text (before.elim 0 (· + 1)) = some token) :
      Accounts text .advance (.token token) before (before.elim 0 (· + 1))
  | noOperator (before : Option Nat) (token : Token)
      (htoken : nthToken text (before.getD 0) = some token)
      (hkind : token.kind ≠ .plus ∧ token.kind ≠ .star) :
      Accounts text .operator (.operator none) before (before.getD 0)
  | operator (before : Option Nat) (op : Operator)
      (hspelled : spelled text (before.getD 0) 1 = String.singleton op.symbol) :
      Accounts text .operator (.operator (some op)) before (before.getD 0 + 1)
  | noExpression (operation : Operation) (before : Option Nat) (token : Token)
      (hoperation : operation = .expression ∨ operation = .program)
      (htoken : nthToken text (before.getD 0) = some token)
      (hkind : token.kind ≠ .digit ∧ token.kind ≠ .leftParenthesis) :
      Accounts text operation (.expression none) before (before.getD 0)
  | expression (operation : Operation) (before : Option Nat) (e : Expr) (printed : String)
      (hoperation : operation = .expression ∨ operation = .program)
      (hprinted : (Tree.ofExpr e).render = .ok printed)
      (hspelled : spelled text (before.getD 0) printed.length = printed) :
      Accounts text operation (.expression (some e)) before (before.getD 0 + printed.length)
  | failed (operation : Operation) (before : Option Nat) (after : Nat) (error : ParseError)
      (token : Token) (hoperation : operation = .expression ∨ operation = .program)
      (hafter : before.getD 0 ≤ after) (htoken : nthToken text after = some token)
      (hposition : error.position = token.position) :
      Accounts text operation (.failed (.malformed error)) before after

def lastIndex : (count : Nat) → Option Nat
  | 0 => none
  | index + 1 => some index

theorem index?_stateAt (text : List Char) (count : Nat) :
    index? (stateAt text count) = lastIndex count := by
  cases count <;> simp [index?, stateAt, lastIndex]

theorem stands_stateAt (text : String) (count : Nat) :
    Stands text (stateAt text.toList count) (lastIndex count) := by
  cases count with
  | zero => rfl
  | succ index =>
    constructor
    . exact (nthToken_eq text index).symm
    . refine ⟨read text.toList (index + 1), behind text.toList (index + 1), ?_, rfl, ?_, ?_, ?_⟩
      . exact (read_append_behind _ _).symm
      . exact unspaced_read _ _
      . intro hindex
        rw [read_succ, ← head?_ahead]
        cases hahead : ahead text.toList index with
        | nil =>
          rw [← List.head?_eq_none_iff, head?_ahead, List.getElem?_eq_none_iff] at hahead
          omega
        | cons c rest => simp
      . intro hindex
        rw [behind_succ, ahead_eq_nil hindex]
        rfl

section Perform

variable {w : List Char} {position : Nat → Position} {state : Nat → Lexer}

theorem perform_of_run_ok {limit : Nat} {operation : Operation} {answer : Answer}
    {lexer lexer' : Lexer}
    (h : (operation.action limit).run lexer = .ok answer lexer') :
    operation.perform limit lexer = (answer, lexer') := by
  unfold Operation.perform
  rw [h]

theorem perform_of_run_error {limit : Nat} {operation : Operation} {failure : Failure}
    {lexer lexer' : Lexer} (h : (operation.action limit).run lexer = .error failure lexer') :
    operation.perform limit lexer = (.failed failure, lexer') := by
  unfold Operation.perform
  rw [h]

theorem perform_fresh (feed : Feed w position state) (limit : Nat) {operation : Operation}
    (h : operation ≠ .advance) :
    operation.perform limit (state 0) = operation.perform limit (state 1) := by
  have hbind {α : Type} {rule : Parser α} (hrule : rule.run (state 0) = rule.run (state 1))
      (f : α → Parser Answer) : (rule >>= f).run (state 0) = (rule >>= f).run (state 1) := by
    rw [EStateM.run_bind, EStateM.run_bind, hrule]
  have haction : (operation.action limit).run (state 0) =
      (operation.action limit).run (state 1) := by
    cases operation with
    | advance => exact absurd rfl h
    | peek => exact run_peek_bind_start feed _
    | operator => exact hbind (run_peek_bind_start feed _) _
    | expression => exact hbind (run_expression_start feed limit) _
    | program => exact hbind (run_expression_start feed limit) _
  unfold Operation.perform
  rw [haction]

end Perform

section Accounts

variable (limit : Nat) (text : String) (before : Option Nat)

theorem accounts_operator :
    ∃ answer index, Operation.operator.perform limit (stateAt text.toList (before.getD 0 + 1)) =
        (answer, stateAt text.toList (index + 1)) ∧
      Accounts text .operator answer before index := by
  have hrun := run_operator (feed_stateAt text.toList) (before.getD 0)
  cases hop : (unspaced text.toList)[before.getD 0]?.bind Operator.ofSymbol? with
  | none =>
    rw [hop] at hrun
    refine ⟨_, _, perform_of_run_ok (run_bind_ok hrun),
      .noOperator before _ (nthToken_eq text (before.getD 0)) ?_⟩
    rw [ne_eq, ne_eq, kind_tokenAt_eq_iff .plus rfl, kind_tokenAt_eq_iff .star rfl]
    constructor
    all_goals
      intro hsymbol
      rw [hsymbol] at hop
      cases hop
  | some op =>
    rw [hop] at hrun
    refine ⟨_, _, perform_of_run_ok (run_bind_ok hrun), .operator before op ?_⟩
    obtain ⟨c, hc, hsymbol⟩ := Option.bind_eq_some_iff.mp hop
    rw [Operator.ofSymbol?_eq_some_iff.mp hsymbol, ← List.head?_drop] at hc
    obtain ⟨rest, hrest⟩ := List.head?_eq_some_iff.mp hc
    exact spelled_eq (v := [op.symbol]) hrest

theorem accounts_expression {operation : Operation}
    (hoperation : operation = .expression ∨ operation = .program) :
    ∃ answer index, operation.perform limit (stateAt text.toList (before.getD 0 + 1)) =
        (answer, stateAt text.toList (index + 1)) ∧
      Accounts text operation answer before index := by
  obtain ⟨result, count, hfinds, hrun⟩ :=
    searches_expression (feed_stateAt text.toList) limit (before.getD 0)
  have haction (lexer : Lexer) : (operation.action limit).run lexer =
      ((return .expression (← Parser.expression limit)) : Parser Answer).run lexer := by
    rcases hoperation with rfl | rfl <;> rfl
  cases result with
  | error reason =>
    -- The token that is reported stays the current one.
    refine ⟨.failed (.malformed ⟨reason, positionAt text.toList (before.getD 0 + count)⟩),
      before.getD 0 + count, perform_of_run_error ?_, ?_⟩
    . rw [haction]
      exact run_bind_error hrun
    . exact .failed operation before _ _ _ hoperation (by omega) (nthToken_eq text _)
        (Token.position_ofChar? _ _).symm
  | ok found =>
    have hperform := perform_of_run_ok ((haction _).trans (run_bind_ok hrun))
    refine ⟨.expression found, before.getD 0 + count, hperform, ?_⟩
    cases hfinds with
    | nothing hnone =>
      refine .noExpression operation before _ hoperation (nthToken_eq text _) ?_
      rw [ne_eq, ne_eq, kind_tokenAt_eq_digit_iff, kind_tokenAt_eq_iff .leftParenthesis rfl]
      rw [List.head?_drop] at hnone
      constructor
      . rintro ⟨c, hc, hdigit⟩
        exact hnone c hc (.inl hdigit)
      . intro hc
        exact hnone '(' hc (.inr rfl)
    | expression e rest hw hlimit =>
      have hspelled : spelled text (before.getD 0) (String.ofList e.render).length =
          String.ofList e.render := by
        rw [String.length_ofList]
        exact spelled_eq hw
      have haccounts :=
        Accounts.expression operation before e _ hoperation (Tree.render_ofExpr e) hspelled
      rwa [String.length_ofList] at haccounts

end Accounts

theorem accounts_perform (limit : Nat) (text : String) (count : Nat) (operation : Operation) :
    ∃ answer index, operation.perform limit (stateAt text.toList count) =
        (answer, stateAt text.toList (index + 1)) ∧
      Accounts text operation answer (lastIndex count) index := by
  have feed := feed_stateAt text.toList
  by_cases hadvance : operation = .advance
  . subst hadvance
    refine ⟨.token (tokenAt (unspaced text.toList) (positionAt text.toList) count), count,
      perform_of_run_ok (run_bind_ok (run_advance feed count)), ?_⟩
    cases count with
    | zero => exact .advance none _ (nthToken_eq text 0)
    | succ index => exact .advance (some index) _ (nthToken_eq text (index + 1))
  . have hready : operation.perform limit (stateAt text.toList count) =
        operation.perform limit (stateAt text.toList ((lastIndex count).getD 0 + 1)) := by
      cases count with
      | zero => exact perform_fresh feed limit hadvance
      | succ index => rfl
    rw [hready]
    cases operation with
    | advance => exact absurd rfl hadvance
    | peek =>
      exact ⟨_, _, perform_of_run_ok (run_bind_ok (run_peek feed _)), .peek _ _ (nthToken_eq _ _)⟩
    | operator => exact accounts_operator limit text _
    | expression => exact accounts_expression limit text _ (.inl rfl)
    | program => exact accounts_expression limit text _ (.inr rfl)

theorem performAll_stateAt (limit : Nat) (text : String) (operations : List Operation)
    (count : Nat) :
    ∃ count', Operation.performAll limit operations (stateAt text.toList count) =
      stateAt text.toList count' := by
  induction operations generalizing count with
  | nil => exact ⟨count, rfl⟩
  | cons operation operations ih =>
    obtain ⟨answer, index, hperform, -⟩ := accounts_perform limit text count operation
    obtain ⟨count', hcount⟩ := ih (index + 1)
    refine ⟨count', ?_⟩
    rw [← hcount, Operation.performAll, List.foldl_cons, hperform]
    rfl

/--
However a parser has been used on a text, it stands at the token whose index is the number of those
read before it, with nothing read behind it. Whatever is asked of it next moves it as the answer
accounts for.
-/
theorem operations_account_for_tokens (limit : Nat) (text : String) (operations : List Operation)
    (operation : Operation) :
    let lexer := Operation.performAll limit operations (.ofString text)
    let next := operation.perform limit lexer
    Stands text lexer (index? lexer) ∧
      ∃ after, index? next.2 = some after ∧ Stands text next.2 (some after) ∧
        Accounts text operation next.1 (index? lexer) after := by
  intro lexer next
  -- Whatever is asked leads from one state of the lexer of the text to another one.
  obtain ⟨count, hlexer⟩ := performAll_stateAt limit text operations 0
  replace hlexer : lexer = stateAt text.toList count := hlexer
  obtain ⟨answer, after, hnext, haccounts⟩ := accounts_perform limit text count operation
  rw [← hlexer] at hnext
  replace hnext : next = (answer, stateAt text.toList (after + 1)) := hnext
  rw [hnext, hlexer, index?_stateAt]
  exact ⟨stands_stateAt text count, after, index?_stateAt _ _, stands_stateAt text (after + 1),
    haccounts⟩

end Parser

end ParenCalc
