import ParenCalc.Decimal

/-!
This module contains the notation of floating-point numbers: with a point from a ten thousandth up
to sixteen digits before the point, and beyond with an exponent of at least two digits.
-/

namespace ParenCalc

namespace Decimal

def stripZeros (digits : List Char) : List Char × Nat :=
  let zeros := (digits.reverse.takeWhile (· == '0')).length
  (digits.take (digits.length - zeros), zeros)

/--
The digits with a point behind the first `point` of them, where zeros stand in for missing ones.
There is at least one digit on either side.
-/
def positional (digits : List Char) (point : Int) : List Char :=
  if point ≤ 0 then '0' :: '.' :: List.replicate (-point).toNat '0' ++ digits
  else if point < digits.length then digits.take point.toNat ++ '.' :: digits.drop point.toNat
  else digits ++ List.replicate (point - digits.length).toNat '0' ++ ['.', '0']

def scientific (digits : List Char) (exponent : Int) : List Char :=
  let power := (toString exponent.natAbs).toList
  digits.take 1 ++ (if digits.length ≤ 1 then [] else '.' :: digits.drop 1) ++
    ['e', if exponent < 0 then '-' else '+'] ++ List.replicate (2 - power.length) '0' ++ power

def text (d : Decimal) : String :=
  let (digits, zeros) := stripZeros (toString d.digits).toList
  let point := d.exponent + zeros + digits.length
  String.ofList
    (if -4 < point ∧ point ≤ 16 then positional digits point else scientific digits (point - 1))

def write (x : Float) : String :=
  if x.isNaN then "nan"
  else
    (if isNegative x then "-" else "") ++
      (if x.isInf then "inf"
      else if magnitude x = 0 then "0.0"
      else (shortest (magnitude x)).text)

end Decimal

end ParenCalc
