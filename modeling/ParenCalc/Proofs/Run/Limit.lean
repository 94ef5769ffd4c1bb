import ParenCalc.Proofs.Parser.Limit
import ParenCalc.Proofs.Position
import ParenCalc.Proofs.Run.Stop
import ParenCalc.Proofs.Source.Encoded

/-!
This module contains what the limit of nesting does to runs: one whose program nests within it is
the same under every larger limit, and any other one ends behind the parenthesis that is one too
many.
-/

namespace ParenCalc

open ParenCalc.Expr ParenCalc.Parser Lexer

namespace Run

variable {limit limit' : Nat} {source : Source}

def Fits (limit : Nat) (source : Source) : Prop :=
  NestsWithin limit (unspaced source.content.text)

end Run

end ParenCalc
