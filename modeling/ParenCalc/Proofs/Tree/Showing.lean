import ParenCalc.Proofs.Tree.Evaluation
import ParenCalc.Proofs.Tree.Fault
import ParenCalc.Proofs.Tree.Outline
import ParenCalc.Proofs.Tree.Printing

namespace ParenCalc

namespace Expr

def labels (depth : Nat) : Expr → List (Nat × String)
  | .digit d => [(depth, "Digit(" ++ toString d.val ++ ")")]
  | .binary left op right =>
    (depth, "Parenthesized(" ++ op.name ++ ")") ::
      left.labels (depth + 1) ++ right.labels (depth + 1)

def indented (level : Int) (label : String) : String :=
  String.ofList (List.replicate (2 * (max 0 level).toNat) ' ') ++ label

theorem outlineLine_eq (level : Int) (label : String) :
    outlineLine level label = indented level label := by
  have hlevel : level.toNat = (max 0 level).toNat := by omega
  unfold outlineLine indented
  rw [hlevel]

theorem outline_eq_map_labels (level : Int) (depth : Nat) (e : Expr) :
    e.outline (level + depth) = (e.labels depth).map fun entry =>
      indented (level + entry.1) entry.2 := by
  induction e generalizing depth with
  | digit d =>
    rw [outline, outlineLine_eq]
    rfl
  | binary left op right ihl ihr =>
    have hdepth : level + depth + 1 = level + (depth + 1 : Nat) := by omega
    rw [outline, outlineLine_eq, hdepth, ihl, ihr, labels, List.map_append, List.map_cons]

end Expr

namespace Tree

theorem errorOf_render (tree : Tree) :
    errorOf tree.render = tree.preorder.findSome? (Node.printError? "symbol") := by
  rw [render_eq_program, errorOf_program]

theorem errorOf_outline (level : Int) (tree : Tree) :
    errorOf (tree.outline level) = tree.preorder.findSome? (Node.printError? "name") := by
  rw [outline_eq_outlineLines, errorOf_map, errorOf_outlineLines]

theorem errorOf_evaluate (tree : Tree) :
    errorOf tree.evaluate = tree.postorder.findSome? Node.evalError? := by
  rw [evaluate_eq_value, errorOf_value]

theorem firstFault_preorder_ne_none_iff (tree : Tree) :
    firstFault tree.preorder ≠ none ↔ firstFault tree.postorder ≠ none := by
  rw [ne_eq, ne_eq, firstFault_preorder_eq_none_iff, firstFault_postorder_eq_none_iff]

/--
Where nothing is out of place, a tree is shown as the expression that it is: as its program, and as
its nodes on lines of their own, with two blanks for each level from zero up. In any other tree,
both ways to show it fail at the first node that is out of place, where an operator comes before its
operands. Such trees are those that have no value.
-/
theorem showing_fails_at_first_fault (level : Int) (tree : Tree) :
    ((firstFault tree.preorder = none ∧
        ∃ e, tree = ofExpr e ∧ tree.render = .ok (String.ofList e.render) ∧
          tree.outline level =
            .ok ("\n".intercalate ((e.labels 0).map fun entry =>
              Expr.indented (level + entry.1) entry.2))) ∨
      ∃ node renderError outlineError, firstFault tree.preorder = some node ∧
        node.printError? "symbol" = some renderError ∧ tree.render = .error renderError ∧
        node.printError? "name" = some outlineError ∧ tree.outline level = .error outlineError) ∧
    ((∃ error, tree.render = .error error) ↔ ∃ error, tree.outline level = .error error) ∧
    ((∃ error, tree.render = .error error) ↔ ∃ error, tree.evaluate = .error error) := by
  have hrender := errorOf_render tree
  have houtline := errorOf_outline level tree
  have hsymbol := tellsFaults_printError? "symbol"
  have hname := tellsFaults_printError? "name"
  refine ⟨?_, ?_, ?_⟩
  . cases hfault : firstFault tree.preorder with
    | none =>
      obtain ⟨e, rfl⟩ := firstFault_preorder_eq_none_iff.mp hfault
      refine .inl ⟨rfl, e, rfl, render_ofExpr e, ?_⟩
      rw [outline_ofExpr, ← e.outline_eq_map_labels, Int.natCast_zero, Int.add_zero]
    | some node =>
      obtain ⟨renderError, hrenderError, hrenders⟩ := hsymbol.eq_error_of_firstFault hrender hfault
      obtain ⟨outlineError, houtlineError, houtlines⟩ :=
        hname.eq_error_of_firstFault houtline hfault
      exact .inr ⟨node, renderError, outlineError, rfl, hrenderError, hrenders, houtlineError,
        houtlines⟩
  . rw [hsymbol.fails_iff hrender, hname.fails_iff houtline]
  . rw [hsymbol.fails_iff hrender, tellsFaults_evalError?.fails_iff (errorOf_evaluate tree),
      firstFault_preorder_ne_none_iff]

end Tree

end ParenCalc
