import ParenCalc.Expr
import ParenCalc.Lexer
import ParenCalc.ParseError

/-!
This module contains the recursive descent parser for the grammar

    Expression := Digit | '(' Expression Operator Expression ')'
    Operator   := '+' | '*'

with the current token as its only lookahead. A rule that does not start at the current token gives
nothing and reads nothing. Behind a left parenthesis all that is missing is an error, and the
offending token stays the current one.
-/

namespace ParenCalc

namespace Parser

inductive Failure
  | malformed (error : ParseError)
  | undecodable (fault : Text.Utf8.Fault)
  deriving DecidableEq, Repr

end Parser

abbrev Parser := EStateM Parser.Failure Lexer

namespace Parser

def lex (action : LexerM α) : Parser α := fun lexer =>
  match action lexer with
  | .ok a lexer => .ok a lexer
  | .error fault lexer => .error (.undecodable fault) lexer

def fail (reason : ParseError.Reason) : Parser α := do
  let token ← lex Lexer.peek
  throw (.malformed ⟨reason, token.position⟩)

def require (reason : ParseError.Reason) (rule : Parser (Option α)) : Parser α := do
  match ← rule with
  | some a => return a
  | none => fail reason

def digit? (token : Token) : Option Digit :=
  match token.kind, token.text.toList with
  | .digit, [c] => Digit.ofChar? c
  | _, _ => none

def operator? (token : Token) : Option Operator :=
  match token.kind with
  | .plus => some .add
  | .star => some .multiply
  | _ => none

def operator : Parser (Option Operator) := do
  match operator? (← lex Lexer.peek) with
  | some op =>
    let _ ← lex Lexer.advance
    return some op
  | none => return none

def rightParenthesis : Parser (Option Unit) := do
  if (← lex Lexer.peek).kind = .rightParenthesis then
    let _ ← lex Lexer.advance
    return some ()
  else return none

def operation (operand : Parser (Option Expr)) : Parser Expr := do
  let _ ← lex Lexer.advance
  let left ← require .missingExpression operand
  let op ← require .missingOperator operator
  let right ← require .missingExpression operand
  require .missingRightParenthesis rightParenthesis
  return .binary left op right

def digitOr (parenthesized : Parser Expr) : Parser (Option Expr) := do
  let token ← lex Lexer.peek
  match digit? token with
  | some d =>
    let _ ← lex Lexer.advance
    return some (.digit d)
  | none =>
    if token.kind = .leftParenthesis then return some (← parenthesized)
    else return none

/--
An expression with at most `limit` parentheses open at once. Within one more of them nothing can be
read, and the token behind it is reported.
-/
def expression : (limit : Nat) → Parser (Option Expr)
  | 0 => digitOr (operation (fail .nestedTooDeeply))
  | limit + 1 => digitOr (operation (expression limit))

def program (limit : Nat) : Parser (Option Expr) :=
  expression limit

def topLevel (limit : Nat) : Parser Expr :=
  require .noExpression (program limit)

def parse (limit : Nat) (text : String) : Except Failure Expr :=
  match topLevel limit (.ofString text) with
  | .ok e _ => .ok e
  | .error failure _ => .error failure

end Parser

end ParenCalc
