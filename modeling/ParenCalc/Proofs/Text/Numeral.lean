namespace ParenCalc

namespace Text

theorem toList_toString_nat (n : Nat) : (toString n).toList = Nat.toDigits 10 n :=
  Nat.toList_repr

theorem isDigit_of_mem_toString_nat {n : Nat} {c : Char} (h : c ∈ (toString n).toList) :
    c.isDigit = true := by
  rw [toList_toString_nat] at h
  exact Nat.isDigit_of_mem_toDigits (by decide) (by decide) h

theorem isDigit_or_minus_of_mem_toString {n : Int} {c : Char} (h : c ∈ (toString n).toList) :
    c.isDigit = true ∨ c = '-' := by
  cases n with
  | ofNat n => exact .inl (isDigit_of_mem_toString_nat h)
  | negSucc n =>
    rw [show toString (Int.negSucc n) = "-" ++ toString (n + 1) from rfl, String.toList_append,
      List.mem_append] at h
    rcases h with hminus | hdigit
    . exact .inr (List.mem_singleton.mp hminus)
    . exact .inl (isDigit_of_mem_toString_nat hdigit)

theorem toString_nat_injective {n m : Nat} (h : toString n = toString m) : n = m := by
  have hread (k : Nat) : Nat.ofDigitChars 10 (toString k).toList 0 = k := by
    rw [toList_toString_nat]
    exact Nat.ofDigitChars_toDigits (by decide) (by decide)
  rw [← hread n, h, hread]

theorem toString_nat_ne_minus (n m : Nat) : toString n ≠ "-" ++ toString m := by
  intro h
  have hminus : '-' ∈ (toString n).toList := by
    rw [h, String.toList_append]
    exact List.mem_append_left _ (List.mem_singleton_self _)
  exact absurd (isDigit_of_mem_toString_nat hminus) (by decide)

theorem toString_int_injective {n m : Int} (h : toString n = toString m) : n = m := by
  cases n with
  | ofNat n =>
    cases m with
    | ofNat m => exact congrArg Int.ofNat (toString_nat_injective h)
    | negSucc m => exact absurd h (toString_nat_ne_minus n (m + 1))
  | negSucc n =>
    cases m with
    | ofNat m => exact absurd h.symm (toString_nat_ne_minus m (n + 1))
    | negSucc m =>
      have hdigits : "-" ++ toString (n + 1) = "-" ++ toString (m + 1) := h
      rw [String.append_right_inj] at hdigits
      have hnext := toString_nat_injective hdigits
      rw [Nat.add_right_cancel hnext]

end Text

end ParenCalc
