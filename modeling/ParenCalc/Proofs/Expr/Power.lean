import ParenCalc.Abort
import ParenCalc.Expr

/-!
This module contains expressions that multiply an expression by itself over and over, so that their
values have more digits than they are nested deep.
-/

namespace ParenCalc

namespace Expr

def power (base : Expr) : (count : Nat) → Expr
  | 0 => base
  | count + 1 => .binary (power base count) .multiply base

theorem value_power (base : Expr) (count : Nat) :
    (power base count).value = Nat.pow base.value (count + 1) := by
  induction count with
  | zero => exact (Nat.pow_one base.value).symm
  | succ count ih =>
    rw [power, value, ih]
    rfl

theorem nesting_power (base : Expr) (count : Nat) :
    (power base count).nesting = base.nesting + count := by
  induction count with
  | zero => rfl
  | succ count ih =>
    rw [power, nesting, ih]
    omega

theorem length_power_power {base : Expr} (hbase : base.value = 10) {inner outer count : Nat}
    (hpos : 0 < count) (hcount : count ≤ (inner + 1) * (outer + 1)) :
    count < (toString (power (power base inner) outer).value).length := by
  have hvalue : (power (power base inner) outer).value =
      Nat.pow 10 ((inner + 1) * (outer + 1)) := by
    rw [value_power, value_power, hbase]
    exact (Nat.pow_mul 10 (inner + 1) (outer + 1)).symm
  rw [← Nat.not_le, length_toString_le_iff hpos, hvalue, Nat.not_lt]
  exact Nat.pow_le_pow_right (by decide) hcount

/--
A program for ten to the power of `maxDigits`, the smallest number that is too long to be written.
-/
def tooLong : Expr :=
  power (power (.binary (.digit 5) .multiply (.digit 2)) 19) 214

theorem length_tooLong : maxDigits < (toString tooLong.value).length :=
  length_power_power rfl (by decide) (by decide)

theorem nesting_tooLong : tooLong.nesting = 234 := by
  unfold tooLong
  rw [nesting_power, nesting_power]
  rfl

end Expr

end ParenCalc
