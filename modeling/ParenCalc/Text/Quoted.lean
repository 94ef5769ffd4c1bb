import ParenCalc.Text.Printable

namespace ParenCalc.Text

def hexDigit (n : Nat) : Char :=
  if n < 10 then Char.ofNat (48 + n) else Char.ofNat (87 + n)

def hexDigits (width n : Nat) : List Char :=
  (List.range width).reverse.map fun place => hexDigit (n >>> (4 * place) % 16)

namespace Quoted

/--
How `c` stands between two `delimiter`s. The escape of an invisible character has two, four or eight
digits, the fewest that hold its code point.
-/
def escape (delimiter c : Char) : List Char :=
  if c = delimiter ∨ c = '\\' then ['\\', c]
  else if c = '\n' then ['\\', 'n']
  else if c = '\r' then ['\\', 'r']
  else if c = '\t' then ['\\', 't']
  else if isPrintable c then [c]
  else if c.toNat < 0x100 then '\\' :: 'x' :: hexDigits 2 c.toNat
  else if c.toNat < 0x10000 then '\\' :: 'u' :: hexDigits 4 c.toNat
  else '\\' :: 'U' :: hexDigits 8 c.toNat

def delimiter (text : List Char) : Char :=
  if '\'' ∈ text ∧ '"' ∉ text then '"' else '\''

end Quoted

def quoteChars (text : List Char) : List Char :=
  let delimiter := Quoted.delimiter text
  delimiter :: text.flatMap (Quoted.escape delimiter) ++ [delimiter]

def quote (text : String) : String :=
  String.ofList (quoteChars text.toList)

@[simp]
theorem toList_quote (text : String) : (quote text).toList = quoteChars text.toList := by
  simp [quote]

end ParenCalc.Text
