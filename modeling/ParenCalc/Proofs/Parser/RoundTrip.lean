import ParenCalc.Proofs.Parser.Acceptance
import ParenCalc.Proofs.Tree.Printing

namespace ParenCalc

namespace Parser

open ParenCalc.Expr Lexer

theorem unspaced_render (e : Expr) : unspaced e.render = e.render := by
  unfold unspaced
  rw [List.filter_eq_self]
  exact all_render (by decide) e

theorem parse_eq (limit : Nat) (text : String) :
    parse limit text =
      match (program limit).run (.ofString text) with
      | .ok (some e) _ => .ok e
      | .ok none lexer =>
        match (fail .noExpression : Parser Expr).run lexer with
        | .ok e _ => .ok e
        | .error failure _ => .error failure
      | .error failure _ => .error failure := by
  have hrequire : topLevel limit (.ofString text) = _ := run_require .noExpression (program limit) _
  unfold parse
  rw [hrequire]
  cases (program limit).run (.ofString text) with
  | ok found lexer => cases found <;> rfl
  | error failure lexer => rfl

/--
An expression is parsed as itself, whatever spaces its text has and whatever follows it, unless it
is nested too deeply, which is then what is reported.
-/
theorem parse_rendered (e : Expr) (limit : Nat) :
    ∃ printed, (Tree.ofExpr e).render = .ok printed ∧
      (e.nesting ≤ limit → ∀ text tail : String, unspaced text.toList = printed.toList →
        parse limit (text ++ tail) = .ok e) ∧
      (limit < e.nesting → ∃ error, parse limit printed = .error (.malformed error) ∧
        error.reason.message = "Expression nested too deeply") := by
  refine ⟨String.ofList e.render, Tree.render_ofExpr e, ?_, ?_⟩
  . intro hnesting text tail htext
    obtain ⟨result, count, hfinds, hrun⟩ := searches_ofString limit (text ++ tail)
    have hw : unspaced (text ++ tail).toList = e.render ++ unspaced tail.toList := by
      rw [String.toList_append, unspaced_append, htext, String.toList_ofList]
    rcases hfinds.of_render hw with ⟨-, rfl⟩ | ⟨hdeep, -⟩
    . rw [parse_eq, hrun]
      rfl
    . omega
  . intro hnesting
    obtain ⟨result, count, hfinds, hrun⟩ := searches_ofString limit (String.ofList e.render)
    have hw : unspaced (String.ofList e.render).toList = e.render ++ [] := by
      rw [String.toList_ofList, unspaced_render, List.append_nil]
    rcases hfinds.of_render hw with ⟨hshallow, -⟩ | ⟨-, rfl⟩
    . omega
    . rw [parse_eq, hrun]
      exact ⟨_, rfl, rfl⟩

theorem parse_rendered_sum :
    let e := Expr.binary (.digit 1) .add (.digit 2)
    e.nesting ≤ 1 ∧ 0 < e.nesting ∧ unspaced "( 1+\n2 )".toList = "(1+2)".toList ∧
      parse 1 ("( 1+\n2 )" ++ "*3") = .ok e ∧
      ∃ error, parse 0 "(1+2)" = .error (.malformed error) ∧
        error.reason.message = "Expression nested too deeply" := by
  intro e
  have hprinted : (Tree.ofExpr e).render = .ok "(1+2)" := Tree.render_ofExpr e
  obtain ⟨printed, hrender, hparse, -⟩ := parse_rendered e 1
  obtain ⟨printed', hrender', -, herror⟩ := parse_rendered e 0
  obtain rfl : "(1+2)" = printed := Except.ok.inj (hprinted.symm.trans hrender)
  obtain rfl : "(1+2)" = printed' := Except.ok.inj (hprinted.symm.trans hrender')
  have hspaces : unspaced "( 1+\n2 )".toList = "(1+2)".toList := by decide
  exact ⟨by decide, by decide, hspaces, hparse (by decide) _ _ hspaces, herror (by decide)⟩

end Parser

end ParenCalc
