import ParenCalc.Expr

namespace ParenCalc

namespace Expr

inductive Derives : List Char → Expr → Prop
  | digit (c : Char) (d : Digit) (h : Digit.ofChar? c = some d) : Derives [c] (.digit d)
  | binary (left right : List Char) (c : Char) (l r : Expr) (op : Operator)
      (hl : Derives left l) (hop : Operator.ofSymbol? c = some op) (hr : Derives right r) :
      Derives ('(' :: left ++ c :: right ++ [')']) (.binary l op r)

def Sentence (w : List Char) : Prop :=
  ∃ e, Derives w e

def Viable (w : List Char) : Prop :=
  ∃ rest, Sentence (w ++ rest)

def openParentheses (w : List Char) : Int :=
  w.foldl (fun n c => if c = '(' then n + 1 else if c = ')' then n - 1 else n) 0

theorem derives_render (e : Expr) : Derives e.render e := by
  induction e with
  | digit d => exact .digit _ _ (Digit.ofChar?_toChar d)
  | binary left op right ihl ihr =>
    exact .binary _ _ _ _ _ _ ihl (Operator.ofSymbol?_symbol op) ihr

end Expr

end ParenCalc
