import ParenCalc.Digit
import ParenCalc.Operator

namespace ParenCalc

inductive Expr
  | digit (d : Digit)
  | binary (left : Expr) (op : Operator) (right : Expr)
  deriving DecidableEq, Repr

namespace Expr

def value : Expr → Nat
  | .digit d => d.val
  | .binary left op right => op.apply left.value right.value

def render : Expr → List Char
  | .digit d => [d.toChar]
  | .binary left op right => '(' :: left.render ++ op.symbol :: right.render ++ [')']

def nesting : Expr → Nat
  | .digit _ => 0
  | .binary left _ right => max left.nesting right.nesting + 1

def digitCount : Expr → Nat
  | .digit _ => 1
  | .binary left _ right => left.digitCount + right.digitCount

def outlineLine (level : Int) (label : String) : String :=
  String.ofList (List.replicate (2 * level.toNat) ' ') ++ label

def outline (level : Int) : Expr → List String
  | .digit d => [outlineLine level ("Digit(" ++ toString d.val ++ ")")]
  | .binary left op right =>
    outlineLine level ("Parenthesized(" ++ op.name ++ ")") ::
      left.outline (level + 1) ++ right.outline (level + 1)

theorem digitCount_pos (e : Expr) : 0 < e.digitCount := by
  induction e with
  | digit d => simp [digitCount]
  | binary left op right ihl ihr => simp only [digitCount]; omega

end Expr

end ParenCalc
