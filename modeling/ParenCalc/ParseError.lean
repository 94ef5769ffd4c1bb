import ParenCalc.Position

namespace ParenCalc

namespace ParseError

inductive Reason
  | missingExpression
  | missingOperator
  | missingRightParenthesis
  | noExpression
  | nestedTooDeeply
  deriving DecidableEq, Repr

def Reason.message : Reason → String
  | .missingExpression => "Missing expression"
  | .missingOperator => "Missing operator"
  | .missingRightParenthesis => "Missing right parenthesis"
  | .noExpression => "No top-level expression"
  | .nestedTooDeeply => "Expression nested too deeply"

end ParseError

structure ParseError where
  reason : ParseError.Reason
  position : Position
  deriving DecidableEq, Repr

def ParseError.message (error : ParseError) : String :=
  Diagnostic.text { reason := error.reason.message, position := error.position }

end ParenCalc
