import ParenCalc.Proofs.Parser.Composed
import ParenCalc.Proofs.Parser.RoundTrip

namespace ParenCalc

def Token.width (token : Token) : Nat :=
  if token.kind = .endOfInput then 0 else token.text.length

theorem Token.width_ofChar? (c : Option Char) (position : Position) :
    (ofChar? c position).width = c.toList.length := by
  cases c with
  | none => rfl
  | some c => simp [width, ofChar?, ofChar]

namespace Parser

open ParenCalc.Expr Lexer

/--
The characters of a text that are no spaces, without the one at which parsing the text stops and
without all that stands behind it.
-/
def accepted (limit : Nat) (text : String) : List Char :=
  let lexer := leftBehind ((topLevel limit).run (.ofString text))
  let removed := lexer.source.pending.length + lexer.current.elim 0 Token.width
  unspaced (text.toList.take (text.toList.length - removed))

theorem take_of_stateAt (text : List Char) (index : Nat) :
    let lexer := stateAt text (index + 1)
    text.take (text.length - (lexer.source.pending.length + lexer.current.elim 0 Token.width)) =
      passed text index := by
  intro lexer
  have hremoved : lexer.source.pending.length + lexer.current.elim 0 Token.width =
      (ahead text index).length := by
    have hpending : lexer.source.pending = (ahead text index).tail := rfl
    have hcurrent : lexer.current =
        some (.ofChar? (ahead text index).head? (positionAt text index)) := by
      rw [head?_ahead]
      rfl
    rw [hpending, hcurrent, Option.elim_some, Token.width_ofChar?]
    cases ahead text index <;> rfl
  have htake : (passed text index ++ ahead text index).take
      ((passed text index ++ ahead text index).length - (ahead text index).length) =
      passed text index := by
    rw [List.length_append, Nat.add_sub_cancel, List.take_left]
  rw [passed_append_ahead] at htake
  rw [hremoved, htake]

theorem searches_accepted (limit : Nat) (text : String) :
    ∃ result count, Finds limit (unspaced text.toList) result count ∧
      accepted limit text = (unspaced text.toList).take count ∧
      ∀ e, parse limit text = .ok e ↔ result = .ok (some e) := by
  obtain ⟨result, count, hfinds, hrun⟩ := searches_topLevel (feed_stateAt text.toList) limit
  refine ⟨result, count, hfinds, ?_, ?_⟩
  . have hstart : (topLevel limit).run (.ofString text) = _ := hrun
    have hlexer :
        leftBehind (conclude (demand result) (positionAt text.toList count)
          (stateAt text.toList (count + 1))) =
          stateAt text.toList (count + 1) := by
      cases demand result <;> rfl
    unfold accepted
    simp only
    rw [hstart, hlexer, take_of_stateAt, unspaced_passed]
  . intro e
    unfold EStateM.run at hrun
    unfold parse
    rw [show topLevel limit (.ofString text) = _ from hrun]
    rcases result with reason | _ | e' <;> simp [demand, conclude]

variable {limit : Nat} {text : String} {e : Expr}

theorem accepted_of_parse (h : parse limit text = .ok e) :
    accepted limit text = e.render ∧ e.nesting ≤ limit ∧ e.render <+: unspaced text.toList := by
  obtain ⟨result, count, hfinds, haccepted, hparse⟩ := searches_accepted limit text
  rw [haccepted]
  obtain rfl := (hparse e).mp h
  cases hfinds with
  | expression _ rest hw hlimit =>
    rw [hw, List.take_left]
    exact ⟨rfl, hlimit, List.prefix_append _ _⟩

theorem parse_of_unspaced {rest : List Char} (htext : unspaced text.toList = e.render ++ rest)
    (h : e.nesting ≤ limit) : parse limit text = .ok e := by
  obtain ⟨result, count, hfinds, -, hparse⟩ := searches_accepted limit text
  rw [hparse]
  rcases hfinds.of_render htext with ⟨-, hresult⟩ | ⟨hdeep, -⟩
  . exact hresult
  . omega

theorem parse_render (h : e.nesting ≤ limit) : parse limit (String.ofList e.render) = .ok e := by
  have htext : unspaced (String.ofList e.render).toList = e.render ++ [] := by
    rw [String.toList_ofList, unspaced_render, List.append_nil]
  exact parse_of_unspaced htext h

/--
Where a text is parsed as an expression, the expression is rendered as the characters of the text
that are no spaces, up to the one at which the parser stops. So two texts stand for the same
expression if and only if these characters are the same, and what was rendered is parsed and
rendered as itself.
-/
theorem parsed_is_rendered_as_accepted (limit : Nat) (s : String) (e : Expr)
    (h : parse limit s = .ok e) :
    (Tree.ofExpr e).render = .ok (String.ofList (accepted limit s)) ∧
    accepted limit s <+: unspaced s.toList ∧
    (∀ limit' s' e', parse limit' s' = .ok e' → (e = e' ↔ accepted limit s = accepted limit' s')) ∧
    ∀ printed, (Tree.ofExpr e).render = .ok printed →
      ∃ e', parse limit printed = .ok e' ∧ (Tree.ofExpr e').render = .ok printed := by
  obtain ⟨haccepted, hnesting, hprefix⟩ := accepted_of_parse h
  rw [haccepted]
  refine ⟨Tree.render_ofExpr e, hprefix, ?_, ?_⟩
  . intro limit' s' e' h'
    rw [(accepted_of_parse h').1]
    constructor
    . rintro rfl
      rfl
    . intro hrender
      exact (render_append_inj (congrArg (· ++ []) hrender)).1
  . intro printed hprinted
    obtain rfl := Except.ok.inj ((Tree.render_ofExpr e).symm.trans hprinted)
    exact ⟨e, parse_render hnesting, Tree.render_ofExpr e⟩

theorem parsed_is_rendered_as_accepted_spaced :
    let e := Expr.binary (.digit 1) .add (.digit 2)
    parse 2 " (1\n+ 2 )\t*9" = .ok e ∧ parse 2 "(1+2)" = .ok e ∧
      accepted 2 " (1\n+ 2 )\t*9" = "(1+2)".toList ∧
      accepted 2 " (1\n+ 2 )\t*9" = accepted 2 "(1+2)" := by
  intro e
  have hnesting : e.nesting ≤ 2 := by decide
  have hspaced : parse 2 " (1\n+ 2 )\t*9" = .ok e :=
    parse_of_unspaced (show _ = e.render ++ ['*', '9'] by decide) hnesting
  have hplain : parse 2 "(1+2)" = .ok e :=
    parse_of_unspaced (show _ = e.render ++ [] by decide) hnesting
  obtain ⟨hrender, -, hsame, -⟩ := parsed_is_rendered_as_accepted 2 " (1\n+ 2 )\t*9" e hspaced
  refine ⟨hspaced, hplain, ?_, (hsame 2 "(1+2)" e hplain).mp rfl⟩
  exact String.ofList_inj.mp (Except.ok.inj (hrender.symm.trans (Tree.render_ofExpr e)))

end Parser

end ParenCalc
