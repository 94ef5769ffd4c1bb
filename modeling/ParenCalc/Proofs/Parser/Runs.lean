import ParenCalc.Parser
import ParenCalc.Proofs.Lexer.Feed
import ParenCalc.Proofs.Parser.Search

/-!
This module contains the runs of the parser on a feed: wherever it starts, it finds what there is to
find, and stops at the token behind it.
-/

namespace ParenCalc

namespace Parser

open ParenCalc.Expr Lexer

def conclude (result : Except ParseError.Reason α) (position : Position) (lexer : Lexer) :
    EStateM.Result Failure Lexer α :=
  match result with
  | .ok a => .ok a lexer
  | .error reason => .error (.malformed ⟨reason, position⟩) lexer

theorem conclude_eq_ok_iff {result : Except ParseError.Reason α} {position : Position}
    {lexer : Lexer}
    {a : α} : (∃ lexer', conclude result position lexer = .ok a lexer') ↔ result = .ok a := by
  cases result <;> simp [conclude]

theorem conclude_eq_error_iff {result : Except ParseError.Reason α} {position : Position}
    {lexer : Lexer} :
    (∃ error lexer', conclude result position lexer = .error (.malformed error) lexer') ↔
      ∀ a, result ≠ .ok a := by
  cases result <;> simp [conclude]

theorem run_bind_ok {x : Parser α} {f : α → Parser β} {a : α} {lexer lexer' : Lexer}
    (h : x.run lexer = .ok a lexer') : (x >>= f).run lexer = (f a).run lexer' := by
  rw [EStateM.run_bind, h]

theorem run_bind_error {x : Parser α} {f : α → Parser β} {failure : Failure} {lexer lexer' : Lexer}
    (h : x.run lexer = .error failure lexer') : (x >>= f).run lexer = .error failure lexer' := by
  rw [EStateM.run_bind, h]

theorem run_require (reason : ParseError.Reason) (rule : Parser (Option α)) (lexer : Lexer) :
    (require reason rule).run lexer =
      match rule.run lexer with
      | .ok (some a) lexer => .ok a lexer
      | .ok none lexer => (fail reason).run lexer
      | .error failure lexer => .error failure lexer := by
  unfold require
  rw [EStateM.run_bind]
  cases rule.run lexer with
  | ok a lexer => cases a <;> rfl
  | error failure lexer => rfl

variable {w : List Char} {position : Nat → Position} {state : Nat → Lexer}

theorem run_peek (feed : Feed w position state) (n : Nat) :
    (lex peek).run (state (n + 1)) = .ok (tokenAt w position n) (state (n + 1)) := by
  unfold EStateM.run lex
  rw [feed.peek_succ]

theorem run_peek_bind_start (feed : Feed w position state) (f : Token → Parser α) :
    (lex peek >>= f).run (state 0) = (lex peek >>= f).run (state 1) := by
  have hstart : (lex peek).run (state 0) = .ok (tokenAt w position 0) (state 1) := by
    unfold EStateM.run lex
    rw [feed.peek_zero]
  rw [run_bind_ok hstart, run_bind_ok (run_peek feed 0)]

theorem run_advance (feed : Feed w position state) (n : Nat) :
    (lex advance).run (state n) = .ok (tokenAt w position n) (state (n + 1)) := by
  unfold EStateM.run lex
  rw [feed.advance]

theorem run_fail (feed : Feed w position state) (reason : ParseError.Reason) (n : Nat) :
    (fail reason : Parser α).run (state (n + 1)) =
      .error (.malformed ⟨reason, position n⟩) (state (n + 1)) := by
  unfold fail
  rw [run_bind_ok (run_peek feed n)]
  unfold tokenAt
  rw [Token.position_ofChar?]
  rfl

theorem digit?_tokenAt (n : Nat) : digit? (tokenAt w position n) = w[n]?.bind Digit.ofChar? := by
  unfold tokenAt
  cases w[n]? with
  | none => rfl
  | some c =>
    simp only [Token.ofChar?, Token.ofChar, Option.bind_some]
    unfold digit?
    split
    . next hkind htext =>
      simp only [String.toList_singleton, List.cons.injEq, and_true] at htext
      rw [htext]
    . next hother =>
      have hdigit : ¬ c.isDigit = true := fun h =>
        hother c (Token.Kind.ofChar_eq_digit_iff.mpr h) (String.toList_singleton c)
      simp [Digit.ofChar?, hdigit]

theorem operator?_tokenAt (n : Nat) :
    operator? (tokenAt w position n) = w[n]?.bind Operator.ofSymbol? := by
  unfold tokenAt
  cases w[n]? with
  | none => rfl
  | some c =>
    simp only [Token.ofChar?, Token.ofChar, Option.bind_some]
    unfold operator? Operator.ofSymbol?
    split
    . next h => rw [(Token.Kind.ofChar_eq_iff rfl).mp h]; rfl
    . next h => rw [(Token.Kind.ofChar_eq_iff rfl).mp h]; rfl
    . next hplus hstar =>
      rw [if_neg, if_neg]
      . exact fun h => hstar ((Token.Kind.ofChar_eq_iff rfl).mpr h)
      . exact fun h => hplus ((Token.Kind.ofChar_eq_iff rfl).mpr h)

theorem run_operator (feed : Feed w position state) (n : Nat) :
    operator.run (state (n + 1)) =
      match w[n]?.bind Operator.ofSymbol? with
      | some op => .ok (some op) (state (n + 2))
      | none => .ok none (state (n + 1)) := by
  unfold operator
  rw [run_bind_ok (run_peek feed n), operator?_tokenAt]
  cases w[n]?.bind Operator.ofSymbol? with
  | none => rfl
  | some op => exact run_bind_ok (run_advance feed (n + 1))

theorem run_rightParenthesis (feed : Feed w position state) (n : Nat) :
    rightParenthesis.run (state (n + 1)) =
      if w[n]? = some ')' then .ok (some ()) (state (n + 2)) else .ok none (state (n + 1)) := by
  unfold rightParenthesis
  rw [run_bind_ok (run_peek feed n)]
  simp only [kind_tokenAt_eq_iff .rightParenthesis rfl]
  split
  . exact run_bind_ok (run_advance feed (n + 1))
  . rfl

theorem run_digitOr_digit (feed : Feed w position state) (parenthesized : Parser Expr) {n : Nat}
    {d : Digit} (h : w[n]? = some d.toChar) :
    (digitOr parenthesized).run (state (n + 1)) = .ok (some (.digit d)) (state (n + 2)) := by
  unfold digitOr
  rw [run_bind_ok (run_peek feed n)]
  simp only [digit?_tokenAt, h, Option.bind_some, Digit.ofChar?_toChar]
  exact run_bind_ok (run_advance feed (n + 1))

theorem run_digitOr_parenthesis (feed : Feed w position state) (parenthesized : Parser Expr)
    {n : Nat}
    (h : w[n]? = some '(') :
    (digitOr parenthesized).run (state (n + 1)) =
      match parenthesized.run (state (n + 1)) with
      | .ok e lexer => .ok (some e) lexer
      | .error failure lexer => .error failure lexer := by
  have hkind : (tokenAt w position n).kind = .leftParenthesis :=
    (kind_tokenAt_eq_iff .leftParenthesis rfl).mpr h
  have hdigit : Digit.ofChar? '(' = none := rfl
  unfold digitOr
  rw [run_bind_ok (run_peek feed n)]
  simp only [digit?_tokenAt, h, hkind, hdigit, Option.bind_some, if_true]
  rw [EStateM.run_bind]
  cases parenthesized.run (state (n + 1)) <;> rfl

theorem run_digitOr_nothing (feed : Feed w position state) (parenthesized : Parser Expr) {n : Nat}
    (h : ∀ c ∈ w[n]?, ¬ Gap.expression.Admits c) :
    (digitOr parenthesized).run (state (n + 1)) = .ok none (state (n + 1)) := by
  unfold digitOr
  rw [run_bind_ok (run_peek feed n)]
  have hdigit : w[n]?.bind Digit.ofChar? = none := by
    rw [Option.bind_eq_none_iff]
    intro c hc
    rw [Digit.ofChar?_eq_none_iff]
    exact fun hdigit => h c hc (.inl hdigit)
  have hkind : (tokenAt w position n).kind ≠ .leftParenthesis := by
    rw [ne_eq, kind_tokenAt_eq_iff .leftParenthesis rfl]
    intro hc
    exact h _ hc (.inr rfl)
  simp only [digit?_tokenAt, hdigit, hkind, if_false]
  rfl

def Searches (w : List Char) (position : Nat → Position) (state : Nat → Lexer) (limit : Nat)
    (rule : Parser (Option Expr)) : Prop :=
  ∀ n, ∃ result count, Finds limit (w.drop n) result count ∧
    rule.run (state (n + 1)) = conclude result (position (n + count)) (state (n + count + 1))

section Operation

variable {limit n m : Nat} {inner v : List Char}

/--
`Sticks limit n run` states that `run` ends as a search does that starts in front of the token with
the index `n` and fails.
-/
def Sticks (w : List Char) (position : Nat → Position) (state : Nat → Lexer) (limit n : Nat)
    (run : EStateM.Result Failure Lexer α) : Prop :=
  ∃ reason count, Finds limit (w.drop n) (.error reason) count ∧
    run = .error (.malformed ⟨reason, position (n + count)⟩) (state (n + count + 1))

theorem Sticks.bind {x : Parser α} {lexer : Lexer}
    (h : Sticks w position state limit n (x.run lexer)) (f : α → Parser β) :
    Sticks w position state limit n ((x >>= f).run lexer) := by
  obtain ⟨reason, count, hfinds, hrun⟩ := h
  exact ⟨reason, count, hfinds, run_bind_error hrun⟩

theorem sticks_require (feed : Feed w position state) {gap : Gap} (hinner : Awaits inner gap)
    (hv : w.drop n = '(' :: inner ++ v) (hm : m = n + inner.length + 1) {rule : Parser (Option α)}
    (hrule : rule.run (state (m + 1)) = .ok none (state (m + 1)))
    (hrest : ∀ c ∈ v.head?, ¬ gap.Admits c) :
    Sticks w position state (limit + 1) n ((require gap.reason rule).run (state (m + 1))) := by
  refine ⟨gap.reason, inner.length + 1, .gap 0 [] inner v gap hv (by omega) .nil hinner hrest, ?_⟩
  rw [run_require, hrule, ← Nat.add_assoc, ← hm]
  exact run_fail feed gap.reason m

theorem drop_append {u : List Char} (h : w.drop n = u ++ v) : w.drop (n + u.length) = v := by
  rw [← List.drop_drop, h, List.drop_left]

theorem drop_operand (hv : w.drop n = '(' :: inner ++ v) (hm : m = n + inner.length + 1) :
    w.drop m = v := by
  rw [hm, Nat.add_assoc]
  exact drop_append hv

theorem run_require_operand (feed : Feed w position state) {operand : Parser (Option Expr)}
    (hoperand : Searches w position state limit operand) (hinner : Awaits inner .expression)
    (hv : w.drop n = '(' :: inner ++ v) (hm : m = n + inner.length + 1) :
    (∃ (e : Expr) (rest : List Char), v = e.render ++ rest ∧ e.nesting ≤ limit ∧
      (require .missingExpression operand).run (state (m + 1)) =
        .ok e (state (m + e.render.length + 1))) ∨
    Sticks w position state (limit + 1) n
      ((require .missingExpression operand).run (state (m + 1))) := by
  obtain ⟨result, count, hfinds, hrun⟩ := hoperand m
  rw [drop_operand hv hm] at hfinds
  cases result with
  | error reason =>
    right
    refine ⟨reason, count + inner.length + 1, hv ▸ hfinds.enclose hinner, ?_⟩
    -- An error of the operand is the error of the operation, and ends at the same token.
    rw [show n + (count + inner.length + 1) = m + count by omega, run_require, hrun]
    rfl
  | ok found =>
    cases hfinds with
    | expression e rest hw hlimit =>
      left
      refine ⟨e, rest, hw, hlimit, ?_⟩
      rw [run_require, hrun]
      rfl
    | nothing hw =>
      right
      exact sticks_require feed hinner hv hm hrun hw

theorem run_require_operator (feed : Feed w position state) (hinner : Awaits inner .operator)
    (hv : w.drop n = '(' :: inner ++ v) (hm : m = n + inner.length + 1) :
    (∃ (op : Operator) (rest : List Char), v = op.symbol :: rest ∧
      (require .missingOperator operator).run (state (m + 1)) = .ok op (state (m + 2))) ∨
    Sticks w position state (limit + 1) n
      ((require .missingOperator operator).run (state (m + 1))) := by
  have hrun := run_operator feed m
  rw [← List.head?_drop, drop_operand hv hm] at hrun
  cases hop : v.head?.bind Operator.ofSymbol? with
  | none =>
    right
    rw [hop] at hrun
    apply sticks_require feed hinner hv hm hrun
    intro c hc hadmits
    obtain ⟨op, hop'⟩ := admits_operator_iff.mp hadmits
    simp [Option.mem_def.mp hc, hop'] at hop
  | some op =>
    left
    obtain ⟨c, hc, hop'⟩ := Option.bind_eq_some_iff.mp hop
    obtain ⟨rest, hv⟩ := List.head?_eq_some_iff.mp hc
    refine ⟨op, rest, by rw [hv, Operator.ofSymbol?_eq_some_iff.mp hop'], ?_⟩
    rw [run_require, hrun, hop]

theorem run_require_rightParenthesis (feed : Feed w position state)
    (hinner : Awaits inner .rightParenthesis) (hv : w.drop n = '(' :: inner ++ v)
    (hm : m = n + inner.length + 1) :
    (∃ rest : List Char, v = ')' :: rest ∧
      (require .missingRightParenthesis rightParenthesis).run (state (m + 1)) =
        .ok () (state (m + 2))) ∨
    Sticks w position state (limit + 1) n
      ((require .missingRightParenthesis rightParenthesis).run (state (m + 1))) := by
  have hrun := run_rightParenthesis feed m
  rw [← List.head?_drop, drop_operand hv hm] at hrun
  by_cases hc : v.head? = some ')'
  . left
    obtain ⟨rest, hv⟩ := List.head?_eq_some_iff.mp hc
    refine ⟨rest, hv, ?_⟩
    rw [run_require, hrun, if_pos hc]
  . right
    rw [if_neg hc] at hrun
    apply sticks_require feed hinner hv hm hrun
    intro c hmem hadmits
    exact hc (hadmits ▸ hmem)

theorem run_operation (feed : Feed w position state) {operand : Parser (Option Expr)}
    (hoperand : Searches w position state limit operand) (hv : w.drop n = '(' :: v) :
    (∃ (e : Expr), Finds (limit + 1) (w.drop n) (.ok (some e)) e.render.length ∧
      (operation operand).run (state (n + 1)) = .ok e (state (n + e.render.length + 1))) ∨
    Sticks w position state (limit + 1) n ((operation operand).run (state (n + 1))) := by
  unfold operation
  rw [run_bind_ok (run_advance feed (n + 1))]
  -- Before each part, `v` is what is ahead, and `m` is the index of the current token.
  rcases run_require_operand (m := n + 1) feed hoperand .start hv rfl with
    ⟨left, v, rfl, hleft, hrun⟩ | hsticks
  case inr => exact .inr (hsticks.bind _)
  rw [run_bind_ok hrun]
  rcases run_require_operator (m := n + 1 + left.render.length) feed (awaits_operator left) hv
      (by omega) with
    ⟨op, v, rfl, hrun⟩ | hsticks
  case inr => exact .inr (hsticks.bind _)
  rw [run_bind_ok hrun]
  have hv' : w.drop n = '(' :: (left.render ++ [op.symbol]) ++ v := by simp [hv]
  rcases run_require_operand (m := n + 1 + left.render.length + 1) feed hoperand
      (awaits_right left op) hv'
      (by simp only [List.length_append, List.length_singleton]; omega) with
    ⟨right, v, rfl, hright, hrun⟩ | hsticks
  case inr => exact .inr (hsticks.bind _)
  rw [run_bind_ok hrun]
  have hv'' : w.drop n = '(' :: (left.render ++ op.symbol :: right.render) ++ v := by simp [hv]
  rcases run_require_rightParenthesis
      (m := n + 1 + left.render.length + 1 + right.render.length)
      feed (awaits_rightParenthesis left op right) hv''
      (by simp only [List.length_append, List.length_cons]; omega) with
    ⟨v, rfl, hrun⟩ | hsticks
  case inr => exact .inr (hsticks.bind _)
  rw [run_bind_ok hrun]
  left
  refine ⟨.binary left op right, ?_, ?_⟩
  . refine .expression (.binary left op right) v (by rw [hv'', render_binary_append]; simp) ?_
    simp only [nesting]
    omega
  . rw [show n + (binary left op right).render.length + 1 =
      n + 1 + left.render.length + 1 + right.render.length + 2 by simp [render]; omega]
    rfl

end Operation

theorem run_operation_fail (feed : Feed w position state) (reason : ParseError.Reason) (n : Nat) :
    (operation (fail reason)).run (state (n + 1)) =
      .error (.malformed ⟨reason, position (n + 1)⟩) (state (n + 2)) := by
  unfold operation
  rw [run_bind_ok (run_advance feed (n + 1))]
  exact run_bind_error ((run_require _ _ _).trans (by rw [run_fail feed]))

theorem searches_digitOr (feed : Feed w position state) {limit : Nat} {parenthesized : Parser Expr}
    (hparenthesized : ∀ n v, w.drop n = '(' :: v →
      (∃ (e : Expr), Finds limit (w.drop n) (.ok (some e)) e.render.length ∧
        parenthesized.run (state (n + 1)) = .ok e (state (n + e.render.length + 1))) ∨
      Sticks w position state limit n (parenthesized.run (state (n + 1)))) :
    Searches w position state limit (digitOr parenthesized) := by
  intro n
  cases hdrop : w.drop n with
  | nil =>
    have hhead : w[n]? = none := by rw [← List.head?_drop, hdrop]; rfl
    exact ⟨.ok none, 0, .nothing (by simp), run_digitOr_nothing feed parenthesized
      (by simp [hhead])⟩
  | cons c v =>
    have hhead : w[n]? = some c := by rw [← List.head?_drop, hdrop]; rfl
    by_cases hdigit : c.isDigit = true
    . obtain ⟨d, rfl⟩ := Digit.isDigit_iff.mp hdigit
      exact ⟨.ok (some (.digit d)), 1, .expression (.digit d) v rfl (Nat.zero_le _),
        run_digitOr_digit feed parenthesized hhead⟩
    by_cases hparenthesis : c = '('
    . subst hparenthesis
      have hrun := run_digitOr_parenthesis feed parenthesized hhead
      rcases hparenthesized n v hdrop with
        ⟨e, hfinds, hoperation⟩ | ⟨reason, count, hfinds, hoperation⟩
      . rw [hoperation] at hrun
        exact ⟨.ok (some e), _, hdrop ▸ hfinds, hrun⟩
      . rw [hoperation] at hrun
        exact ⟨.error reason, count, hdrop ▸ hfinds, hrun⟩
    . have hadmits : ¬ Gap.expression.Admits c := fun h => h.elim hdigit hparenthesis
      exact ⟨.ok none, 0, .nothing (by simpa using hadmits),
        run_digitOr_nothing feed parenthesized (by simpa [hhead] using hadmits)⟩

theorem searches_expression (feed : Feed w position state) (limit : Nat) :
    Searches w position state limit (expression limit) := by
  -- The limit goes down with every parenthesis that is opened.
  induction limit with
  | zero =>
    apply searches_digitOr feed
    intro n v hv
    exact .inr ⟨.nestedTooDeeply, 1, .tooDeep [] v hv .nil, run_operation_fail feed _ n⟩
  | succ limit ih =>
    apply searches_digitOr feed
    intro n v hv
    exact run_operation feed ih hv

theorem run_expression_start (feed : Feed w position state) (limit : Nat) :
    (expression limit).run (state 0) = (expression limit).run (state 1) := by
  cases limit <;> exact run_peek_bind_start feed _

theorem searches_program (feed : Feed w position state) (limit : Nat) :
    ∃ result count, Finds limit w result count ∧
      (program limit).run (state 0) = conclude result (position count) (state (count + 1)) := by
  obtain ⟨result, count, hfinds, hrun⟩ := searches_expression feed limit 0
  refine ⟨result, count, hfinds, ?_⟩
  unfold program
  rw [run_expression_start feed, hrun]
  simp

def demand (result : Except ParseError.Reason (Option α)) : Except ParseError.Reason α :=
  match result with
  | .ok (some a) => .ok a
  | .ok none => .error .noExpression
  | .error reason => .error reason

theorem searches_topLevel (feed : Feed w position state) (limit : Nat) :
    ∃ result count, Finds limit w result count ∧
      (topLevel limit).run (state 0) =
        conclude (demand result) (position count) (state (count + 1)) := by
  obtain ⟨result, count, hfinds, hrun⟩ := searches_program feed limit
  refine ⟨result, count, hfinds, ?_⟩
  unfold topLevel
  rw [run_require, hrun]
  cases result with
  | error reason => rfl
  | ok found =>
    cases found with
    | some e => rfl
    | none => exact run_fail feed .noExpression count

end Parser

end ParenCalc
