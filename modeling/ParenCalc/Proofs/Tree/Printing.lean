import ParenCalc.Tree.Printing

namespace ParenCalc

namespace Tree

theorem writePieces_tree (tree : Tree) (pieces : List Piece) (written : String) :
    writePieces (.tree tree :: pieces) written =
      match tree.program with
      | .ok text => writePieces pieces (written ++ text)
      | .error error => .error error := by
  -- All that is written before, and all that is still to be written, stays as it is.
  induction tree generalizing pieces written with
  | digit d => rw [writePieces]; rfl
  | foreign value => rw [writePieces]; rfl
  | binary left op right ihl ihr =>
    rw [writePieces, program]
    cases op.symbol with
    | error error => rfl
    | ok symbol =>
      simp only
      rw [writePieces, ihl]
      cases left.program with
      | error error => rfl
      | ok left =>
        simp only
        rw [writePieces, ihr]
        cases right.program with
        | error error => rfl
        | ok right =>
          simp only
          rw [writePieces]
          simp [bind, Except.bind, String.append_assoc]

theorem render_eq_program (tree : Tree) : tree.render = tree.program := by
  unfold render
  rw [writePieces_tree]
  cases tree.program with
  | error error => rfl
  | ok text =>
    simp only
    rw [writePieces, String.empty_append]

theorem toString_digit (d : Digit) : toString d.val = String.ofList [d.toChar] := by
  revert d
  decide

theorem program_ofExpr (e : Expr) : (ofExpr e).program = .ok (String.ofList e.render) := by
  induction e with
  | digit d => exact congrArg Except.ok (toString_digit d)
  | binary left op right ihl ihr =>
    rw [ofExpr, program, ihl, ihr]
    apply congrArg Except.ok
    rw [← String.toList_inj]
    simp [Expr.render]

theorem render_ofExpr (e : Expr) : (ofExpr e).render = .ok (String.ofList e.render) := by
  rw [render_eq_program, program_ofExpr]

end Tree

end ParenCalc
