import ParenCalc.Text.Quoted

namespace ParenCalc

inductive Operator
  | add
  | multiply
  deriving DecidableEq, Repr

namespace Operator

def symbol : Operator → Char
  | .add => '+'
  | .multiply => '*'

def name : Operator → String
  | .add => "ADD"
  | .multiply => "MULTIPLY"

def apply : Operator → Nat → Nat → Nat
  | .add, left, right => left + right
  | .multiply, left, right => left * right

def ofSymbol? (c : Char) : Option Operator :=
  if c = '+' then some .add
  else if c = '*' then some .multiply
  else none

structure Unknown where
  text : String
  deriving DecidableEq, Repr

def Unknown.message (unknown : Unknown) : String :=
  Text.quote unknown.text ++ " is not a valid Operator"

def ofText (text : String) : Except Unknown Operator :=
  match text.toList.map ofSymbol? with
  | [some op] => .ok op
  | _ => .error ⟨text⟩

@[simp]
theorem ofSymbol?_symbol (op : Operator) : ofSymbol? op.symbol = some op := by
  cases op <;> rfl

theorem ofSymbol?_eq_some_iff {c : Char} {op : Operator} :
    ofSymbol? c = some op ↔ c = op.symbol := by
  constructor
  . intro h
    unfold ofSymbol? at h
    split at h
    . cases op <;> simp_all [symbol]
    . split at h <;> cases op <;> simp_all [symbol]
  . rintro rfl
    exact ofSymbol?_symbol op

theorem symbol_injective {a b : Operator} (h : a.symbol = b.symbol) : a = b := by
  cases a <;> cases b <;> simp_all [symbol]

end Operator

end ParenCalc
