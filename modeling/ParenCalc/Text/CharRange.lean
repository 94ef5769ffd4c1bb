/-!
This module contains sets of characters given by ascending ranges of code points, the form in which
the character classes of this library are tabulated.
-/

namespace ParenCalc.Text

structure CharRange where
  first : Nat
  last : Nat
  deriving DecidableEq, Repr

namespace CharRange

/--
Whether `n` lies in one of the ranges. The ranges have to be ascending: the search ends at the first
range that starts after `n`.
-/
def search (n : Nat) : List CharRange → Bool
  | [] => false
  | range :: rest => range.first ≤ n && (n ≤ range.last || search n rest)

def ascending : List CharRange → Bool
  | [] => true
  | [range] => range.first ≤ range.last
  | range :: next :: rest =>
    range.first ≤ range.last && range.last < next.first && ascending (next :: rest)

end CharRange

end ParenCalc.Text
