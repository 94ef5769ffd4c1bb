import ParenCalc.Tree.Printing

namespace ParenCalc

namespace Tree

theorem writeOutlines_tree (tree : Tree) (level : Int) (trees : List (Tree × Int))
    (written : List String) :
    writeOutlines ((tree, level) :: trees) written =
      match tree.outlineLines level with
      | .ok lines => writeOutlines trees (lines.reverse ++ written)
      | .error error => .error error := by
  induction tree generalizing level trees written with
  | digit d => rw [writeOutlines]; rfl
  | foreign value => rw [writeOutlines]; rfl
  | binary left op right ihl ihr =>
    rw [writeOutlines, outlineLines]
    cases op.name with
    | error error => rfl
    | ok name =>
      simp only
      rw [ihl]
      cases left.outlineLines (level + 1) with
      | error error => rfl
      | ok left =>
        simp only
        rw [ihr]
        cases right.outlineLines (level + 1) with
        | error error => rfl
        | ok right => simp [bind, Except.bind]

theorem outline_eq_outlineLines (level : Int) (tree : Tree) :
    tree.outline level = (tree.outlineLines level).map ("\n".intercalate ·) := by
  unfold outline
  rw [writeOutlines_tree]
  cases tree.outlineLines level with
  | error error => rfl
  | ok lines =>
    simp only
    rw [writeOutlines, List.append_nil, List.reverse_reverse]

theorem outlineLines_ofExpr (level : Int) (e : Expr) :
    (ofExpr e).outlineLines level = .ok (e.outline level) := by
  induction e generalizing level with
  | digit d => rfl
  | binary left op right ihl ihr =>
    rw [ofExpr, outlineLines, ihl, ihr]
    rfl

theorem outline_ofExpr (level : Int) (e : Expr) :
    (ofExpr e).outline level = .ok ("\n".intercalate (e.outline level)) := by
  rw [outline_eq_outlineLines, outlineLines_ofExpr]
  rfl

end Tree

end ParenCalc
