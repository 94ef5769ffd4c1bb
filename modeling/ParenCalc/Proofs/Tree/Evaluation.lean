import ParenCalc.Tree.Evaluation

namespace ParenCalc

namespace Tree

theorem perform_visit (tree : Tree) (tasks : List Task) (values : List Nat) :
    perform (.visit tree :: tasks) values =
      match tree.value with
      | .ok v => perform tasks (v :: values)
      | .error error => .error error := by
  -- The tasks behind the tree and the values below its own stay as they are.
  induction tree generalizing tasks values with
  | digit d => rw [perform]; rfl
  | foreign v => rw [perform]; rfl
  | binary left op right ihl ihr =>
    rw [perform, value, ihl]
    cases left.value with
    | error error => rfl
    | ok l =>
      simp only
      rw [ihr]
      cases right.value with
      | error error => rfl
      | ok r =>
        simp only
        rw [perform]
        rfl

theorem evaluate_eq_value (tree : Tree) : tree.evaluate = tree.value := by
  unfold evaluate
  rw [perform_visit]
  cases tree.value with
  | error error => rfl
  | ok v =>
    simp only
    rw [perform]

theorem value_ofExpr (e : Expr) : (ofExpr e).value = .ok e.value := by
  induction e with
  | digit d => rfl
  | binary left op right ihl ihr =>
    rw [ofExpr, value, ihl, ihr]
    rfl

theorem evaluate_ofExpr (e : Expr) : (ofExpr e).evaluate = .ok e.value := by
  rw [evaluate_eq_value, value_ofExpr]

inductive WellFormed : Tree → Prop
  | digit (d : Digit) : WellFormed (.digit d)
  | binary (left : Tree) (op : Operator) (right : Tree) (hleft : WellFormed left)
      (hright : WellFormed right) :
      WellFormed (.binary left (.operator op) right)

theorem WellFormed.value_eq_ok {tree : Tree} (h : WellFormed tree) : ∃ v, tree.value = .ok v := by
  induction h with
  | digit d => exact ⟨d.val, rfl⟩
  | binary left op right hleft hright ihl ihr =>
    obtain ⟨l, hl⟩ := ihl
    obtain ⟨r, hr⟩ := ihr
    rw [value, hl, hr]
    exact ⟨op.apply l r, rfl⟩

theorem wellFormed_of_value {tree : Tree} {v : Nat} (h : tree.value = .ok v) : WellFormed tree := by
  induction tree generalizing v with
  | digit d => exact .digit d
  | foreign value => cases h
  | binary left op right ihl ihr =>
    rw [value] at h
    cases hleft : left.value with
    | error error =>
      rw [hleft] at h
      cases h
    | ok l =>
      cases hright : right.value with
      | error error =>
        rw [hleft, hright] at h
        cases h
      | ok r =>
        rw [hleft, hright] at h
        cases op with
        | operator op => exact .binary left op right (ihl hleft) (ihr hright)
        | text s => cases h
        | missing => cases h

theorem OperatorField.apply_eq_error {op : OperatorField} {left right : Nat} {error : EvalError}
    (h : op.apply left right = .error error) : error = .unsupportedOperator op := by
  unfold apply at h
  split at h
  . cases h
  . exact (Except.error.inj h).symm

theorem value_eq_error {tree : Tree} {error : EvalError} (h : tree.value = .error error) :
    (∃ value, error = .unsupportedNode value) ∨ (∃ op, error = .unsupportedOperator op) := by
  induction tree with
  | digit d => cases h
  | foreign value => exact .inl ⟨value, (Except.error.inj h).symm⟩
  | binary left op right ihl ihr =>
    rw [value] at h
    cases hleft : left.value with
    | error error' =>
      rw [hleft] at h
      cases h
      exact ihl hleft
    | ok l =>
      cases hright : right.value with
      | error error' =>
        rw [hleft, hright] at h
        cases h
        exact ihr hright
      | ok r =>
        rw [hleft, hright] at h
        exact .inr ⟨op, OperatorField.apply_eq_error h⟩

theorem message_of_value_eq_error {tree : Tree} {error : EvalError}
    (h : tree.value = .error error) :
    ∃ kind, error.message = "Unsupported " ++ kind := by
  rcases value_eq_error h with ⟨value, rfl⟩ | ⟨op, rfl⟩
  . refine ⟨"node: " ++ value.kindName, ?_⟩
    unfold EvalError.message
    apply String.toList_inj.mp
    simp
  . refine ⟨"operator: " ++ op.write, ?_⟩
    unfold EvalError.message
    apply String.toList_inj.mp
    simp

end Tree

end ParenCalc
