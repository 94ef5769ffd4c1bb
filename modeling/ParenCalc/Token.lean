import ParenCalc.Position
import ParenCalc.Text.Quoted

namespace ParenCalc

namespace Token

inductive Kind
  | digit
  | plus
  | star
  | leftParenthesis
  | rightParenthesis
  | unknown
  | endOfInput
  deriving DecidableEq, Repr

namespace Kind

def name : Kind → String
  | .digit => "DIGIT"
  | .plus => "PLUS"
  | .star => "STAR"
  | .leftParenthesis => "LPAR"
  | .rightParenthesis => "RPAR"
  | .unknown => "UNKNOWN"
  | .endOfInput => "END_OF_INPUT"

def all : List Kind :=
  [.digit, .plus, .star, .leftParenthesis, .rightParenthesis, .unknown, .endOfInput]

def ofName? (name : String) : Option Kind :=
  all.find? (·.name == name)

def ofChar (c : Char) : Kind :=
  if c.isDigit then .digit
  else if c = '+' then .plus
  else if c = '*' then .star
  else if c = '(' then .leftParenthesis
  else if c = ')' then .rightParenthesis
  else .unknown

end Kind

end Token

structure Token where
  kind : Token.Kind
  text : String
  position : Position := {}
  deriving DecidableEq, Repr

namespace Token

def ofChar (c : Char) (position : Position) : Token :=
  ⟨.ofChar c, String.singleton c, position⟩

def endOfInput (position : Position) : Token :=
  ⟨.endOfInput, "#", position⟩

def ofChar? (c : Option Char) (position : Position) : Token :=
  match c with
  | some c => ofChar c position
  | none => endOfInput position

/--
What tells two tokens apart wherever they stand: digits are all alike, and so are ends of input,
while every other token counts as the text that it shows.
-/
inductive Tag
  | kind (kind : Kind)
  | text (s : String)
  deriving DecidableEq, Repr

def tag (token : Token) : Tag :=
  match token.kind with
  | .digit => .kind .digit
  | .endOfInput => .kind .endOfInput
  | _ => .text token.text

def describe (token : Token) : String :=
  "Token(" ++ token.kind.name ++ ", " ++ Text.quote token.text ++ ", line=" ++
    toString token.position.line ++ ")"

def listing (token : Token) : String :=
  toString token.position.line ++ ":" ++ toString token.position.column ++ "\t" ++
    token.kind.name ++ "\t" ++ Text.quote token.text

@[simp]
theorem Kind.ofChar_ne_endOfInput (c : Char) : Kind.ofChar c ≠ .endOfInput := by
  unfold Kind.ofChar
  repeat' split
  all_goals simp

end Token

end ParenCalc
