import ParenCalc.ParseError
import ParenCalc.Proofs.Expr.Rendering

/-!
This module contains the beginnings of sentences. One that stops within parentheses is cut at the
last of its open parentheses: what stands in front of it is a chain of operations whose next operand
is yet to come, and what stands behind it decides what is missing.
-/

namespace ParenCalc

namespace Expr

inductive Gap
  | expression
  | operator
  | rightParenthesis
  deriving DecidableEq, Repr

def Gap.reason : Gap → ParseError.Reason
  | .expression => .missingExpression
  | .operator => .missingOperator
  | .rightParenthesis => .missingRightParenthesis

def Gap.name : Gap → String
  | .expression => "expression"
  | .operator => "operator"
  | .rightParenthesis => "right parenthesis"

def Gap.Admits : Gap → Char → Prop
  | .expression, c => c.isDigit = true ∨ c = '('
  | .operator, c => c = '+' ∨ c = '*'
  | .rightParenthesis, c => c = ')'

/--
`Awaits inner gap` states that `gap` is missing where a left parenthesis has been followed by
`inner`.
-/
inductive Awaits : List Char → Gap → Prop
  | start : Awaits [] .expression
  | left (l : List Char) (hl : Sentence l) : Awaits l .operator
  | operator (l : List Char) (c : Char) (op : Operator) (hl : Sentence l)
      (hop : Operator.ofSymbol? c = some op) : Awaits (l ++ [c]) .expression
  | right (l : List Char) (c : Char) (r : List Char) (op : Operator) (hl : Sentence l)
      (hop : Operator.ofSymbol? c = some op) (hr : Sentence r) :
      Awaits (l ++ c :: r) .rightParenthesis

/--
`Enclosing depth outer` states that `outer` opens `depth` parentheses, that none of them is closed,
and that an expression is missing behind each of them and at the end.
-/
inductive Enclosing : Nat → List Char → Prop
  | nil : Enclosing 0 []
  | cons (depth : Nat) (inner outer : List Char) (hinner : Awaits inner .expression)
      (houter : Enclosing depth outer) : Enclosing (depth + 1) ('(' :: inner ++ outer)

/--
Whether all that a text opens within its viable beginnings is at most `limit` parentheses at once.
What stands behind the end of an expression, or behind something wrong, does not count.
-/
def NestsWithin (limit : Nat) (w : List Char) : Prop :=
  ∀ v, v <+: w → Viable v → openParentheses v ≤ limit

def KeepsOpen (w : List Char) : Prop :=
  ∀ n, 0 ≤ openParentheses (w.take n)

structure InnermostOpen (w outer inner : List Char) : Prop where
  split : w = outer ++ '(' :: inner
  unclosed : KeepsOpen inner
  innermost : ∀ a b, inner = a ++ '(' :: b → ¬ KeepsOpen b

theorem Gap.message_reason (gap : Gap) : gap.reason.message = "Missing " ++ gap.name := by
  cases gap <;> rfl

theorem nestsWithin_of_length_le {limit : Nat} {w : List Char} (h : w.length ≤ limit) :
    NestsWithin limit w := by
  intro v hprefix _
  have hcount := openParentheses_le_length v
  have hlength := hprefix.length_le
  omega

theorem admits_expression_iff {c : Char} :
    Gap.expression.Admits c ↔ ∃ (e : Expr) (rest : List Char), e.render = c :: rest := by
  constructor
  . rintro (hdigit | rfl)
    . obtain ⟨d, rfl⟩ := Digit.isDigit_iff.mp hdigit
      exact ⟨.digit d, [], rfl⟩
    . exact ⟨.binary (.digit 0) .add (.digit 0), _, rfl⟩
  . rintro ⟨e, rest, he⟩
    cases e with
    | digit d =>
      simp only [render, List.cons.injEq] at he
      rw [← he.1]
      exact .inl (Digit.isDigit_iff.mpr ⟨d, rfl⟩)
    | binary left op right =>
      simp only [render, List.cons_append, List.cons.injEq] at he
      exact .inr he.1.symm

theorem exists_admits_render (e : Expr) (rest : List Char) :
    ∃ c ∈ (e.render ++ rest).head?, Gap.expression.Admits c := by
  obtain ⟨c, v, he⟩ := List.exists_cons_of_ne_nil e.render_ne_nil
  refine ⟨c, ?_, admits_expression_iff.mpr ⟨e, v, he⟩⟩
  rw [he]
  rfl

theorem Gap.Admits.unique {gap gap' : Gap} {c : Char} (h : gap.Admits c) (h' : gap'.Admits c) :
    gap = gap' := by
  have hdigit : c.isDigit = true → c ≠ '+' ∧ c ≠ '*' ∧ c ≠ ')' := by
    intro hc
    obtain ⟨d, rfl⟩ := Digit.isDigit_iff.mp hc
    exact ⟨d.toChar_ne_symbol .add, d.toChar_ne_symbol .multiply, d.toChar_ne_parenthesis.2⟩
  cases gap <;> cases gap' <;> grind [Gap.Admits]

theorem admits_operator_iff {c : Char} :
    Gap.operator.Admits c ↔ ∃ op : Operator, Operator.ofSymbol? c = some op := by
  simp only [Operator.ofSymbol?_eq_some_iff]
  constructor
  . rintro (rfl | rfl)
    . exact ⟨.add, rfl⟩
    . exact ⟨.multiply, rfl⟩
  . rintro ⟨op, rfl⟩
    cases op
    . exact .inl rfl
    . exact .inr rfl

theorem Awaits.rendered {inner : List Char} {gap : Gap} (h : Awaits inner gap) :
    (inner = [] ∧ gap = .expression) ∨
      (∃ left : Expr, inner = left.render ∧ gap = .operator) ∨
      (∃ (left : Expr) (op : Operator), inner = left.render ++ [op.symbol] ∧ gap = .expression) ∨
      (∃ (left : Expr) (op : Operator) (right : Expr),
        inner = left.render ++ op.symbol :: right.render ∧ gap = .rightParenthesis) := by
  cases h with
  | start => exact .inl ⟨rfl, rfl⟩
  | left l hl =>
    obtain ⟨left, rfl⟩ := sentence_iff.mp hl
    exact .inr (.inl ⟨left, rfl, rfl⟩)
  | operator l c op hl hop =>
    obtain ⟨left, rfl⟩ := sentence_iff.mp hl
    rw [Operator.ofSymbol?_eq_some_iff.mp hop]
    exact .inr (.inr (.inl ⟨left, op, rfl, rfl⟩))
  | right l c r op hl hop hr =>
    obtain ⟨left, rfl⟩ := sentence_iff.mp hl
    obtain ⟨right, rfl⟩ := sentence_iff.mp hr
    rw [Operator.ofSymbol?_eq_some_iff.mp hop]
    exact .inr (.inr (.inr ⟨left, op, right, rfl, rfl⟩))

theorem awaits_operator (left : Expr) : Awaits left.render .operator :=
  .left _ (sentence_render left)

theorem awaits_right (left : Expr) (op : Operator) :
    Awaits (left.render ++ [op.symbol]) .expression :=
  .operator _ _ op (sentence_render left) (by simp)

theorem awaits_rightParenthesis (left : Expr) (op : Operator) (right : Expr) :
    Awaits (left.render ++ op.symbol :: right.render) .rightParenthesis :=
  .right _ _ _ op (sentence_render left) (by simp) (sentence_render right)

theorem Awaits.viable {inner : List Char} {gap : Gap} (h : Awaits inner gap) :
    Viable ('(' :: inner) := by
  apply viable_iff.mpr
  rcases h.rendered with ⟨rfl, -⟩ | ⟨left, rfl, -⟩ | ⟨left, op, rfl, -⟩ | ⟨left, op, right, rfl, -⟩
  . exact ⟨.binary (.digit 0) .add (.digit 0), "0+0)".toList, by decide⟩
  . exact ⟨.binary left .add left, Operator.add.symbol :: left.render ++ [')'], by simp [render]⟩
  . exact ⟨.binary left op left, left.render ++ [')'], by simp [render]⟩
  . exact ⟨.binary left op right, [')'], by simp [render]⟩

theorem Enclosing.viable {depth : Nat} {outer v : List Char} (h : Enclosing depth outer)
    (hv : Viable v) : Viable (outer ++ v) := by
  induction h with
  | nil => exact hv
  | cons depth inner outer hinner houter ih =>
    obtain ⟨e, rest, he⟩ := viable_iff.mp ih
    apply viable_iff.mpr
    rcases hinner.rendered with ⟨rfl, -⟩ | ⟨_, _, h⟩ | ⟨left, op, rfl, -⟩ | ⟨_, _, _, _, h⟩
    . refine ⟨.binary e .add e, rest ++ Operator.add.symbol :: e.render ++ [')'], ?_⟩
      simp [render, he]
    . cases h
    . exact ⟨.binary left op e, rest ++ [')'], by simp [render, he]⟩
    . cases h

theorem Awaits.admits {e : Expr} {inner rest tail : List Char} {gap : Gap} (h : Awaits inner gap)
    (he : e.render ++ tail = '(' :: inner ++ rest) : ∃ c ∈ rest.head?, gap.Admits c := by
  rw [List.cons_append] at he
  obtain ⟨left, op, right, rfl, hrest⟩ := exists_binary_of_render he
  -- The operands in `inner` are those of the sentence, since none is the beginning of another one.
  rcases h.rendered with ⟨rfl, rfl⟩ | ⟨l, rfl, rfl⟩ | ⟨l, op', rfl, rfl⟩ | ⟨l, op', r, rfl, rfl⟩
  . rw [List.nil_append] at hrest
    rw [← hrest]
    exact exists_admits_render left _
  . obtain ⟨_, hrest⟩ := render_append_inj hrest
    refine ⟨op.symbol, ?_, admits_operator_iff.mpr ⟨op, by simp⟩⟩
    simp [← hrest]
  . rw [List.append_assoc] at hrest
    obtain ⟨_, hrest⟩ := render_append_inj hrest
    obtain ⟨_, rfl⟩ := List.cons.inj hrest
    exact exists_admits_render right _
  . rw [List.append_assoc] at hrest
    obtain ⟨_, hrest⟩ := render_append_inj hrest
    obtain ⟨_, hrest⟩ := render_append_inj (List.cons.inj hrest).2
    refine ⟨')', ?_, rfl⟩
    simp [← hrest]

theorem Enclosing.continues {depth : Nat} {e : Expr} {outer v tail : List Char}
    (h : Enclosing depth outer) (he : e.render ++ tail = outer ++ v) :
    ∃ (e' : Expr) (tail' : List Char), v = e'.render ++ tail' ∧ e'.nesting + depth ≤ e.nesting := by
  induction h generalizing e tail with
  | nil => exact ⟨e, tail, he.symm, by simp⟩
  | cons depth inner outer hinner houter ih =>
    rw [List.append_assoc, List.cons_append] at he
    obtain ⟨left, op, right, rfl, hrest⟩ := exists_binary_of_render he
    simp only [nesting]
    rcases hinner.rendered with ⟨rfl, -⟩ | ⟨_, _, h⟩ | ⟨l, op', rfl, -⟩ | ⟨_, _, _, _, h⟩
    . obtain ⟨e', tail', hv, hnesting⟩ := ih hrest
      exact ⟨e', tail', hv, by omega⟩
    . cases h
    . rw [List.append_assoc] at hrest
      obtain ⟨_, hrest⟩ := render_append_inj hrest
      obtain ⟨e', tail', hv, hnesting⟩ := ih (List.cons.inj hrest).2
      exact ⟨e', tail', hv, by omega⟩
    . cases h

theorem Enclosing.not_viable {depth : Nat} {outer inner : List Char} {gap : Gap} {c : Char}
    (houter : Enclosing depth outer) (hinner : Awaits inner gap) (hc : ¬ gap.Admits c) :
    ¬ Viable (outer ++ '(' :: inner ++ [c]) := by
  intro hviable
  obtain ⟨e, rest, he⟩ := viable_iff.mp hviable
  have he : e.render ++ [] = outer ++ ('(' :: inner ++ c :: rest) := by simp [he]
  obtain ⟨e', tail, he', -⟩ := houter.continues he
  obtain ⟨c', hc', hadmits⟩ := hinner.admits he'.symm
  simp only [List.head?_cons, Option.mem_def, Option.some.injEq] at hc'
  exact hc (hc' ▸ hadmits)

theorem Awaits.openParentheses {inner : List Char} {gap : Gap} (h : Awaits inner gap) :
    openParentheses inner = 0 := by
  rcases h.rendered with ⟨rfl, -⟩ | ⟨left, rfl, -⟩ | ⟨left, op, rfl, -⟩ | ⟨left, op, right, rfl, -⟩
  all_goals simp

theorem Enclosing.openParentheses {depth : Nat} {outer : List Char} (h : Enclosing depth outer) :
    openParentheses outer = depth := by
  induction h with
  | nil => rfl
  | cons depth inner outer hinner houter ih => simp [hinner.openParentheses, ih]

theorem Enclosing.head?_append {depth : Nat} {outer : List Char} (h : Enclosing depth outer)
    (v : List Char) : (outer ++ '(' :: v).head? = some '(' := by
  cases h <;> rfl

theorem keepsOpen_nil : KeepsOpen [] := by
  intro n
  simp

theorem keepsOpen_singleton {c : Char} (h : c ≠ ')') : KeepsOpen [c] := by
  intro n
  cases n with
  | zero => simp
  | succ n =>
    rw [List.take_succ_cons, List.take_nil, openParentheses_cons]
    simp only [if_neg h]
    split <;> simp

theorem KeepsOpen.append {v w : List Char} (hv : KeepsOpen v) (hw : KeepsOpen w) :
    KeepsOpen (v ++ w) := by
  intro n
  rw [List.take_append, openParentheses_append]
  have hfirst := hv n
  have hsecond := hw (n - v.length)
  omega

theorem KeepsOpen.enclose {v : List Char} (hv : KeepsOpen v) (hopen : openParentheses v = 0) :
    KeepsOpen ('(' :: v ++ [')']) := by
  intro n
  cases n with
  | zero => simp
  | succ n =>
    rw [List.cons_append, List.take_succ_cons, openParentheses_left, List.take_append,
      openParentheses_append]
    -- Only behind all of `v` is the last parenthesis part of what is taken.
    cases hn : n - v.length with
    | zero =>
      have hopened := hv n
      simp
      omega
    | succ m =>
      rw [List.take_of_length_le (by omega), hopen]
      simp

theorem keepsOpen_render (e : Expr) : KeepsOpen e.render := by
  induction e with
  | digit d => exact keepsOpen_singleton d.toChar_ne_parenthesis.2
  | binary left op right ihl ihr =>
    have hright := (keepsOpen_singleton op.symbol_ne_parenthesis.2).append ihr
    have hinner := (ihl.append hright).enclose (by simp)
    simpa [render] using hinner

theorem Awaits.keepsOpen {inner : List Char} {gap : Gap} (h : Awaits inner gap) :
    KeepsOpen inner := by
  have hop (op : Operator) : KeepsOpen [op.symbol] := keepsOpen_singleton op.symbol_ne_parenthesis.2
  rcases h.rendered with ⟨rfl, -⟩ | ⟨left, rfl, -⟩ | ⟨left, op, rfl, -⟩ | ⟨left, op, right, rfl, -⟩
  . exact keepsOpen_nil
  . exact keepsOpen_render left
  . exact (keepsOpen_render left).append (hop op)
  . exact (keepsOpen_render left).append ((hop op).append (keepsOpen_render right))

theorem Awaits.innermostOpen {inner : List Char} {gap : Gap} (h : Awaits inner gap)
    (outer : List Char) : InnermostOpen (outer ++ '(' :: inner) outer inner where
  split := rfl
  unclosed := h.keepsOpen
  innermost := by
    rintro a b rfl hb
    -- Were it left open, `inner` would open more parentheses than it closes.
    have ha := h.keepsOpen a.length
    have hb := hb b.length
    have hopen := h.openParentheses
    simp only [List.take_left, List.take_length, openParentheses_append, openParentheses_left] at *
    omega

theorem InnermostOpen.unique {w outer inner outer' inner' : List Char}
    (h : InnermostOpen w outer inner) (h' : InnermostOpen w outer' inner') :
    outer = outer' ∧ inner = inner' := by
  -- Of two such parentheses one stands behind the other, which is then not the innermost one.
  have hsplit := h.split.symm.trans h'.split
  rcases List.append_eq_append_iff.mp hsplit with ⟨v, hv, hinner⟩ | ⟨v, hv, hinner⟩
  . cases v with
    | nil => simp_all
    | cons c v =>
      simp only [List.cons_append, List.cons.injEq] at hinner
      exact absurd h'.unclosed (h.innermost v inner' (by simp [hinner.2]))
  . cases v with
    | nil => simp_all
    | cons c v =>
      simp only [List.cons_append, List.cons.injEq] at hinner
      exact absurd h.unclosed (h'.innermost v inner (by simp [hinner.2]))

theorem Awaits.unique {inner : List Char} {gap gap' : Gap} (h : Awaits inner gap)
    (h' : Awaits inner gap') : gap = gap' := by
  obtain ⟨e, rest, he⟩ := viable_iff.mp h.viable
  have he : e.render ++ [] = '(' :: inner ++ rest := by rw [he, List.append_nil]
  -- Both gaps admit the character with which one and the same sentence goes on.
  obtain ⟨c, hc, hadmits⟩ := h.admits he
  obtain ⟨c', hc', hadmits'⟩ := h'.admits he
  obtain rfl : c = c' := Option.mem_unique hc hc'
  exact hadmits.unique hadmits'

theorem beginning_binary {left right : Expr} {op : Operator} {v rest : List Char}
    (h : (binary left op right).render = '(' :: v ++ rest) :
    (∃ tail, left.render = v ++ tail) ∨
      (∃ v' tail, v = left.render ++ op.symbol :: v' ∧ right.render = v' ++ tail) ∨
      v = left.render ++ op.symbol :: right.render ++ [')'] := by
  have hv : v ++ rest = left.render ++ (op.symbol :: right.render ++ [')']) := by
    simpa [render] using h.symm
  rcases List.append_eq_append_iff.mp hv with ⟨tail, hleft, -⟩ | ⟨v', rfl, hbehind⟩
  . exact .inl ⟨tail, hleft⟩
  cases v' with
  | nil => exact .inl ⟨[], by simp⟩
  | cons c v' =>
    obtain ⟨hc, hright⟩ := List.cons.inj hbehind
    rcases List.append_eq_append_iff.mp hright.symm with ⟨tail, hright, -⟩ | ⟨last, rfl, hlast⟩
    . exact .inr (.inl ⟨v', tail, by rw [hc], hright⟩)
    . cases last with
      | nil => exact .inr (.inl ⟨_, [], by rw [hc], by simp⟩)
      | cons c' last =>
        obtain ⟨hc', hnil⟩ := List.cons.inj hlast
        have hlast := (List.append_eq_nil_iff.mp hnil.symm).1
        exact .inr (.inr (by simp [hc, ← hc', hlast]))

theorem exists_enclosing {limit : Nat} {e : Expr} {v rest : List Char} (he : e.render = v ++ rest)
    (hopen : limit < openParentheses v) :
    ∃ outer, Enclosing limit outer ∧ outer ++ ['('] <+: v := by
  induction e generalizing limit v rest with
  | digit d =>
    cases v with
    | nil => exact absurd hopen (by simp)
    | cons c v =>
      obtain ⟨hc, hv⟩ := List.cons.inj he
      rw [← hc, (List.append_eq_nil_iff.mp hv.symm).1] at hopen
      exact absurd hopen (by simp)
  | binary left op right ihl ihr =>
    cases v with
    | nil => exact absurd hopen (by simp)
    | cons c v =>
      obtain rfl : '(' = c := (List.cons.inj he).1
      cases limit with
      | zero => exact ⟨[], .nil, v, rfl⟩
      | succ limit =>
        rw [openParentheses_left] at hopen
        rcases beginning_binary he with ⟨tail, hleft⟩ | ⟨v', tail, rfl, hright⟩ | rfl
        . have hopen : limit < openParentheses v := by omega
          obtain ⟨outer, houter, hprefix⟩ := ihl hleft hopen
          exact ⟨_, .cons limit [] outer .start houter, (List.prefix_cons_inj '(').mpr hprefix⟩
        . simp only [openParentheses_append, openParentheses_render,
            openParentheses_symbol] at hopen
          have hopen : limit < openParentheses v' := by omega
          obtain ⟨outer, houter, tail', hv'⟩ := ihr hright hopen
          exact ⟨_, .cons limit _ outer (awaits_right left op) houter, tail', by simp [← hv']⟩
        . simp at hopen
          omega

theorem exists_enclosing_of_not_nestsWithin {limit : Nat} {w : List Char}
    (h : ¬ NestsWithin limit w) :
    ∃ outer rest, w = outer ++ '(' :: rest ∧ Enclosing limit outer := by
  simp only [NestsWithin, Classical.not_forall, Int.not_le] at h
  obtain ⟨v, ⟨tail, rfl⟩, hviable, hopen⟩ := h
  obtain ⟨e, rest, he⟩ := viable_iff.mp hviable
  obtain ⟨outer, houter, tail', rfl⟩ := exists_enclosing he hopen
  exact ⟨outer, tail' ++ tail, by simp, houter⟩

end Expr

end ParenCalc
