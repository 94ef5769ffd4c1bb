import ParenCalc.Expr
import ParenCalc.Tree.Value

namespace ParenCalc

namespace Tree

inductive OperatorField
  | operator (op : Operator)
  | text (s : String)
  | missing
  deriving DecidableEq, Repr

namespace OperatorField

def operator? : OperatorField → Option Operator
  | .operator op => some op
  | _ => none

def kindName : OperatorField → String
  | .operator _ => "Operator"
  | .text _ => "str"
  | .missing => "NoneType"

def write : OperatorField → String
  | .operator op => "<Operator." ++ op.name ++ ": '" ++ String.singleton op.symbol ++ "'>"
  | .text s => Text.quote s
  | .missing => "None"

end OperatorField

end Tree

inductive Tree
  | digit (d : Digit)
  | binary (left : Tree) (op : Tree.OperatorField) (right : Tree)
  | foreign (value : Value)

namespace Tree

def ofExpr : Expr → Tree
  | .digit d => .digit d
  | .binary left op right => .binary (ofExpr left) (.operator op) (ofExpr right)

def toExpr? : Tree → Option Expr
  | .digit d => some (.digit d)
  | .binary left op right =>
    match left.toExpr?, op.operator?, right.toExpr? with
    | some left, some op, some right => some (.binary left op right)
    | _, _, _ => none
  | .foreign _ => none

inductive Node
  | digit (d : Digit)
  | operator (op : OperatorField)
  | foreign (value : Value)

def postorder : Tree → List Node
  | .digit d => [.digit d]
  | .binary left op right => left.postorder ++ right.postorder ++ [.operator op]
  | .foreign value => [.foreign value]

def preorder : Tree → List Node
  | .digit d => [.digit d]
  | .binary left op right => .operator op :: left.preorder ++ right.preorder
  | .foreign value => [.foreign value]

def same : Tree → Tree → Bool
  | .digit d, .digit e => d == e
  | .binary left op right, .binary left' op' right' =>
    left.same left' && op == op' && right.same right'
  | .foreign value, .foreign value' => value.same value'
  | _, _ => false

def constructors : Tree → String
  | .digit d => "Digit(value=" ++ toString d.val ++ ")"
  | .binary left op right =>
    "Parenthesized(left=" ++ left.constructors ++ ", op=" ++ op.write ++ ", right=" ++
      right.constructors ++ ")"
  | .foreign value => value.write

@[simp]
theorem toExpr?_ofExpr (e : Expr) : (ofExpr e).toExpr? = some e := by
  induction e with
  | digit d => rfl
  | binary left op right ihl ihr => simp [ofExpr, toExpr?, ihl, ihr, OperatorField.operator?]

theorem ofExpr_injective {a b : Expr} (h : ofExpr a = ofExpr b) : a = b := by
  simpa using congrArg toExpr? h

theorem same_ofExpr_iff {a b : Expr} : (ofExpr a).same (ofExpr b) = true ↔ a = b := by
  induction a generalizing b with
  | digit d => cases b <;> simp [ofExpr, same]
  | binary left op right ihl ihr =>
    cases b with
    | digit d => simp [ofExpr, same]
    | binary left' op' right' => simp [ofExpr, same, ihl, ihr, and_assoc]

end Tree

end ParenCalc
