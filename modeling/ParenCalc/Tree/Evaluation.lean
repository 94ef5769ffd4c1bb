import ParenCalc.Tree

/-!
This module contains the evaluation of trees, by recursion on the tree and by a machine with a list
of tasks and a stack of values, which needs no room on the call stack.
-/

namespace ParenCalc

namespace Tree

inductive EvalError
  | unsupportedNode (value : Value)
  | unsupportedOperator (op : OperatorField)
  | missingOperand

def EvalError.message : EvalError → String
  | .unsupportedNode value => "Unsupported node: " ++ value.kindName
  | .unsupportedOperator op => "Unsupported operator: " ++ op.write
  | .missingOperand => "Missing operand"

def OperatorField.apply (op : OperatorField) (left right : Nat) : Except EvalError Nat :=
  match op.operator? with
  | some op => .ok (op.apply left right)
  | none => .error (.unsupportedOperator op)

/--
The value of a tree. Of several things out of place, the first counts in the order left operand,
right operand, operator.
-/
def value : Tree → Except EvalError Nat
  | .digit d => .ok d.val
  | .binary left op right => do
    let left ← left.value
    let right ← right.value
    op.apply left right
  | .foreign v => .error (.unsupportedNode v)

inductive Task
  | visit (tree : Tree)
  | apply (op : OperatorField)

def nodeCount : Tree → Nat
  | .digit _ => 1
  | .binary left _ right => left.nodeCount + right.nodeCount + 1
  | .foreign _ => 1

/--
More than the number of steps that a task takes.
-/
def Task.weight : Task → Nat
  | .visit tree => 2 * tree.nodeCount
  | .apply _ => 1

def perform : List Task → List Nat → Except EvalError (List Nat)
  | [], values => .ok values
  | .visit (.digit d) :: tasks, values => perform tasks (d.val :: values)
  | .visit (.binary left op right) :: tasks, values =>
    perform (.visit left :: .visit right :: .apply op :: tasks) values
  | .visit (.foreign v) :: _, _ => .error (.unsupportedNode v)
  | .apply op :: tasks, right :: left :: values =>
    match op.apply left right with
    | .ok v => perform tasks (v :: values)
    | .error error => .error error
  | .apply _ :: _, _ => .error .missingOperand
termination_by tasks => tasks.foldr (fun task weight => task.weight + weight) 0
decreasing_by
  all_goals simp only [List.foldr_cons, Task.weight, nodeCount]
  all_goals omega

def evaluate (tree : Tree) : Except EvalError Nat :=
  match perform [.visit tree] [] with
  | .ok [v] => .ok v
  | .ok _ => .error .missingOperand
  | .error error => .error error

end Tree

end ParenCalc
