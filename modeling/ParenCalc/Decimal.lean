/-!
This module contains decimal numbers and how they stand for floating-point numbers: a decimal number
is read as the nearest floating-point number, and a floating-point number is written as the shortest
decimal number that is read as it.
-/

namespace ParenCalc

structure Decimal where
  digits : Nat
  exponent : Int
  deriving DecidableEq, Repr

namespace Decimal

def toFloat (d : Decimal) : Float :=
  Float.ofScientific d.digits (decide (d.exponent < 0)) d.exponent.natAbs

/--
The absolute value of a finite floating-point number, taken from its bits: an exponent, which is the
lowest one if its bits are all zero, and the fraction of a number that starts with a one otherwise.
-/
def magnitude (x : Float) : Rat :=
  let exponent := (x.toBits >>> 52 &&& 0x7FF).toNat
  let fraction := (x.toBits &&& 0xFFFFFFFFFFFFF).toNat
  if exponent = 0 then fraction * 2 ^ (-1074 : Int)
  else (0x10000000000000 + fraction : Nat) * 2 ^ (exponent - 1075 : Int)

def isNegative (x : Float) : Bool :=
  x.toBits >>> 63 != 0

def rational (x : Float) : Rat :=
  if isNegative x then -magnitude x else magnitude x

/--
The two decimal numbers with the given exponent between which a positive number lies, the nearer one
first. In the middle between them, that is the even one.
-/
def neighbours (value : Rat) (exponent : Int) : List Decimal :=
  let scaled := value / 10 ^ exponent
  let below := scaled.floor.toNat
  let ahead := scaled - below
  if ahead < 1 / 2 ∨ ahead = 1 / 2 ∧ below % 2 = 0 then [⟨below, exponent⟩, ⟨below + 1, exponent⟩]
  else [⟨below + 1, exponent⟩, ⟨below, exponent⟩]

/--
An exponent of ten such that a positive number lies below that power of ten and not below the one
before it. It may be one less for a power of ten smaller than one.
-/
def scale (value : Rat) : Int :=
  if 1 ≤ value then (toString value.floor).length
  else 1 - (toString (1 / value).floor).length

def readsAs (value : Rat) (d : Decimal) : Bool :=
  magnitude d.toFloat == value

/--
The decimal number with the fewest digits that is read as the floating-point number with the given
absolute value, which is positive, and the nearest of several such. Should seventeen digits not do,
it is the exact value.
-/
def shortest (value : Rat) : Decimal :=
  let candidates :=
    (List.range 17).flatMap fun (n : Nat) => neighbours value (scale value - (n + 1))
  (candidates.find? (readsAs value)).getD ⟨(value * 10 ^ (1074 : Int)).floor.toNat, -1074⟩

end Decimal

end ParenCalc
