namespace ParenCalc

/--
A place in a text. Lines count from one and columns from zero; a line that is not positive stands
for no place at all.
-/
structure Position where
  line : Int := 1
  column : Int := 0
  deriving DecidableEq, Repr

namespace Position

def next (position : Position) (c : Char) : Position :=
  if c = '\n' then ⟨position.line + 1, 0⟩ else ⟨position.line, position.column + 1⟩

def after (position : Position) (text : List Char) : Position :=
  text.foldl next position

@[simp]
theorem after_nil (position : Position) : position.after [] = position := rfl

@[simp]
theorem after_cons (position : Position) (c : Char) (text : List Char) :
    position.after (c :: text) = (position.next c).after text := rfl

@[simp]
theorem after_append (position : Position) (text rest : List Char) :
    position.after (text ++ rest) = (position.after text).after rest := by
  simp [after]

end Position

structure Diagnostic where
  reason : String
  position : Position
  showColumn : Bool := false
  deriving DecidableEq, Repr

def Diagnostic.text (diagnostic : Diagnostic) : String :=
  let position := diagnostic.position
  if position.line ≤ 0 then diagnostic.reason
  else if diagnostic.showColumn then
    "Line " ++ toString position.line ++ ", col " ++ toString position.column ++ ": " ++
      diagnostic.reason
  else "Line " ++ toString position.line ++ ": " ++ diagnostic.reason

end ParenCalc
