namespace ParenCalc

abbrev Digit := Fin 10

namespace Digit

def toChar (d : Digit) : Char :=
  Char.ofNat (48 + d.val)

/--
The digit that `c` shows. Only the digits `0` to `9` count, not those of other scripts.
-/
def ofChar? (c : Char) : Option Digit :=
  if h : c.isDigit then some ⟨c.toNat - 48, by
    simp only [Char.isDigit, Bool.and_eq_true, decide_eq_true_eq] at h
    have hnine := UInt32.le_iff_toNat_le.mp h.2
    change c.val.toNat ≤ 57 at hnine
    change c.val.toNat - 48 < 10
    omega⟩
  else none

structure OutOfRange where
  value : Int
  deriving DecidableEq, Repr

def OutOfRange.message (error : OutOfRange) : String :=
  "Digit value out of range: " ++ toString error.value

def ofInt (value : Int) : Except OutOfRange Digit :=
  if h : 0 ≤ value ∧ value ≤ 9 then .ok ⟨value.toNat, by omega⟩ else .error ⟨value⟩

@[simp]
theorem ofChar?_toChar (d : Digit) : ofChar? d.toChar = some d := by
  revert d
  decide

theorem toChar_injective {a b : Digit} (h : a.toChar = b.toChar) : a = b := by
  simpa using congrArg ofChar? h

end Digit

end ParenCalc
