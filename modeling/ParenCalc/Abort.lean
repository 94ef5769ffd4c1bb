import ParenCalc.Outcome

namespace ParenCalc

inductive Abort
  | valueTooLong
  | undecodable (fault : Text.Utf8.Fault)
  | nameTooLong (path : String)
  | isDirectory (path : String)
  | nullInPath
  | noDirectory
  deriving DecidableEq, Repr

namespace Abort

def message : Abort → String
  | .valueTooLong =>
    "Exceeds the limit (4300 digits) for integer string conversion; " ++
      "use sys.set_int_max_str_digits() to increase the limit"
  | .undecodable fault => fault.message
  | .nameTooLong path => "[Errno 36] File name too long: " ++ Text.quote path
  | .isDirectory path => Outcome.directoryMessage path
  | .nullInPath => "embedded null byte"
  | .noDirectory => "'list' object has no attribute 'resolve'"

end Abort

def maxDigits : Nat := 4300

def isWritable (value : Nat) : Bool :=
  value < Nat.pow 10 maxDigits

def writeValue (value : Nat) : Except Abort String :=
  if isWritable value then .ok (toString value) else .error .valueTooLong

theorem length_toString_le_iff {value count : Nat} (h : 0 < count) :
    (toString value).length ≤ count ↔ value < Nat.pow 10 count :=
  Nat.length_repr_le_iff h

theorem isWritable_iff {value : Nat} :
    isWritable value = true ↔ (toString value).length ≤ maxDigits := by
  rw [length_toString_le_iff (by decide)]
  exact decide_eq_true_iff

theorem writeValue_eq_ok {value : Nat} (h : (toString value).length ≤ maxDigits) :
    writeValue value = .ok (toString value) := by
  unfold writeValue
  rw [if_pos (isWritable_iff.mpr h)]

theorem writeValue_eq_error {value : Nat} (h : maxDigits < (toString value).length) :
    writeValue value = .error .valueTooLong := by
  unfold writeValue
  rw [if_neg (by rw [isWritable_iff]; omega)]

end ParenCalc
