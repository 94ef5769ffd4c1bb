import ParenCalc.ParseError
import ParenCalc.Parser
import ParenCalc.Tree.Evaluation

namespace ParenCalc

inductive Outcome
  | finished (tree : Tree) (value : Nat)
  | malformed (error : ParseError)
  | undecodable (fault : Text.Utf8.Fault)
  | noValue (tree : Tree) (error : Tree.EvalError)
  | notFound (path : String)
  | unreadable (reason : String)

namespace Outcome

def success : Outcome → Bool
  | .finished _ _ => true
  | _ => false

def value? : Outcome → Option Nat
  | .finished _ value => some value
  | _ => none

def tree? : Outcome → Option Tree
  | .finished tree _ => some tree
  | .noValue tree _ => some tree
  | _ => none

def directoryMessage (path : String) : String :=
  "[Errno 21] Is a directory: " ++ Text.quote path

def isDirectory (path : String) : Outcome :=
  .unreadable (directoryMessage path)

def message? : Outcome → Option String
  | .finished _ _ => none
  | .malformed error => some ("Parse error: " ++ error.message)
  | .undecodable fault => some ("Read error: " ++ fault.message)
  | .noValue _ error => some ("Evaluation error: " ++ error.message)
  | .notFound path => some ("Input file not found: " ++ path)
  | .unreadable reason => some ("Cannot read input file: " ++ reason)

def ofTree (tree : Tree) : Outcome :=
  match tree.evaluate with
  | .ok value => .finished tree value
  | .error error => .noValue tree error

def ofFailure : Parser.Failure → Outcome
  | .malformed error => .malformed error
  | .undecodable fault => .undecodable fault

end Outcome

end ParenCalc
