import ParenCalc.Abort
import ParenCalc.Proofs.Expr.Rendering

namespace ParenCalc

theorem Operator.isDigit_symbol (op : Operator) : op.symbol.isDigit = false := by
  cases op <;> rfl

namespace Expr

theorem nine_le_pow {count : Nat} (h : 0 < count) : 9 ≤ Nat.pow 9 count :=
  Nat.le_pow h

theorem value_le_pow (e : Expr) : e.value ≤ Nat.pow 9 e.digitCount := by
  induction e with
  | digit d => exact Nat.le_of_lt_succ d.isLt
  | binary left op right ihl ihr =>
    have hpow : Nat.pow 9 (left.digitCount + right.digitCount) =
        Nat.pow 9 left.digitCount * Nat.pow 9 right.digitCount := Nat.pow_add 9 _ _
    rw [value, digitCount, hpow]
    cases op with
    | add =>
      -- A sum is no larger than the product, as both operands have a digit and so their bounds are
      -- at least nine.
      have hleft := nine_le_pow left.digitCount_pos
      have hright := nine_le_pow right.digitCount_pos
      exact Nat.le_trans (Nat.add_le_add ihl ihr) (Nat.add_le_mul (by omega) (by omega))
    | multiply => exact Nat.mul_le_mul ihl ihr

theorem length_toString_value_le (e : Expr) : (toString e.value).length ≤ e.digitCount := by
  have hpos := e.digitCount_pos
  rw [length_toString_le_iff hpos]
  exact Nat.lt_of_le_of_lt e.value_le_pow (Nat.pow_lt_pow_left (by decide) (by omega))

theorem countP_isDigit_render (e : Expr) : e.render.countP Char.isDigit = e.digitCount := by
  induction e with
  | digit d =>
    have hdigit : d.toChar.isDigit = true := Digit.isDigit_iff.mpr ⟨d, rfl⟩
    simp [render, digitCount, hdigit]
  | binary left op right ihl ihr =>
    have hleft : Char.isDigit '(' = false := rfl
    have hright : Char.isDigit ')' = false := rfl
    simp [render, digitCount, List.countP_append, ihl, ihr, op.isDigit_symbol, hleft, hright]

end Expr

end ParenCalc
