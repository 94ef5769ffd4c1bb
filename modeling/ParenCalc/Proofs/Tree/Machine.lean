import ParenCalc.Proofs.Tree.Evaluation
import ParenCalc.Proofs.Tree.Fault

namespace ParenCalc

namespace Tree

def height : List Task → (count : Nat) → Option Nat
  | [], count => some count
  | .visit _ :: tasks, count => height tasks (count + 1)
  | .apply _ :: tasks, count + 2 => height tasks (count + 1)
  | .apply _ :: _, _ => none

def Balanced (n : Nat) (result : Except EvalError (List Nat)) : Prop :=
  result ≠ .error .missingOperand ∧ ∀ values, result = .ok values → values.length = n

theorem balanced_ok (values : List Nat) : Balanced values.length (.ok values) := by
  refine ⟨by simp, ?_⟩
  intro values' h
  rw [Except.ok.inj h]

theorem balanced_error {n : Nat} {error : EvalError} (h : error ≠ .missingOperand) :
    Balanced n (.error error) := by
  refine ⟨?_, by simp⟩
  intro herror
  exact h (Except.error.inj herror)

theorem balanced_perform {tasks : List Task} {values : List Nat} {n : Nat}
    (h : height tasks values.length = some n) : Balanced n (perform tasks values) := by
  -- Each step leaves the height as it is.
  induction tasks, values using perform.induct with
  | case1 values =>
    rw [perform]
    obtain rfl := Option.some.inj h
    exact balanced_ok values
  | case2 d tasks values ih =>
    rw [perform]
    exact ih h
  | case3 left op right tasks values ih =>
    rw [perform]
    exact ih h
  | case4 v tasks values =>
    rw [perform]
    exact balanced_error (by simp)
  | case5 op tasks right left values v happly ih =>
    rw [perform, happly]
    exact ih h
  | case6 op tasks right left values error happly =>
    rw [perform, happly]
    rw [OperatorField.apply_eq_error happly]
    exact balanced_error (by simp)
  | case7 op tasks values hvalues =>
    cases values with
    | nil => cases h
    | cons right values =>
      cases values with
      | nil => cases h
      | cons left values => exact absurd rfl (hvalues right left values)

/--
The machine finds the value of an expression and leaves nothing else on its stack. In any other tree
it stops at the first node that is out of place, where a node comes after its operands. It never
misses an operand.
-/
theorem evaluate_finds_value_or_first_fault (tree : Tree) :
    ((firstFault tree.postorder = none ∧
        ∃ e, tree = ofExpr e ∧ perform [.visit tree] [] = .ok [e.value] ∧
          tree.evaluate = .ok e.value) ∨
      ∃ node error, firstFault tree.postorder = some node ∧ node.evalError? = some error ∧
        perform [.visit tree] [] = .error error ∧ tree.evaluate = .error error) ∧
    Balanced 1 (perform [.visit tree] []) := by
  refine ⟨?_, balanced_perform rfl⟩
  cases hfault : firstFault tree.postorder with
  | none =>
    obtain ⟨e, rfl⟩ := firstFault_postorder_eq_none_iff.mp hfault
    refine .inl ⟨rfl, e, rfl, ?_, evaluate_ofExpr e⟩
    rw [perform_visit, value_ofExpr]
    simp only
    rw [perform]
  | some node =>
    obtain ⟨error, hnode, hvalue⟩ :=
      tellsFaults_evalError?.eq_error_of_firstFault (errorOf_value tree) hfault
    refine .inr ⟨node, error, rfl, hnode, ?_, ?_⟩
    . rw [perform_visit, hvalue]
    . rw [evaluate_eq_value, hvalue]

end Tree

end ParenCalc
