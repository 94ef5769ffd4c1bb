import ParenCalc.Text.Output
import ParenCalc.Text.Quoted

namespace ParenCalc

namespace Fixture

inductive Child
  | exited (status : Int) (stdout stderr : String)
  | timedOut
  | notStarted
  deriving DecidableEq, Repr

namespace Child

def command (path : String) : List String :=
  ["python3", "-m", "dharma", "run", path]

def timeoutMessage (path : String) : String :=
  "Command '[" ++ ", ".intercalate ((command path).map Text.quote) ++
    "]' timed out after 30 seconds"

def notStartedMessage : String :=
  "[Errno 2] No such file or directory: 'python3'"

end Child

structure Result where
  name : String
  passed : Bool
  expected : String := ""
  actual : String := ""
  message : String := ""
  deriving DecidableEq, Repr

def Result.line (result : Result) : String :=
  (if result.passed then "[PASS] " else "[FAIL] ") ++ result.name

def errorMark : List Char := "ERROR: ".toList

inductive Expectation
  | output (text : List Char)
  | failure (message : List Char)
  deriving DecidableEq, Repr

def Expectation.ofNormalized (expected : List Char) : Expectation :=
  if errorMark.isPrefixOf expected then .failure (expected.drop errorMark.length)
  else .output expected

def Expectation.compare (expectation : Expectation) (status : Int) (stdout stderr : String) :
    Bool × List Char :=
  match expectation with
  | .failure message =>
    let actual := Text.normalizeOutput stderr.toList
    (status != 0 && Text.occursIn message actual, actual)
  | .output expected =>
    let actual := Text.normalizeOutput stdout.toList
    (status == 0 && actual == expected, actual)

def judge (name path : String) (expected : List Char) (child : Child) : Result :=
  let normalized := Text.normalizeOutput expected
  let expected := String.ofList normalized
  match child with
  | .exited status stdout stderr =>
    let (passed, actual) :=
      (Expectation.ofNormalized normalized).compare status stdout stderr
    { name, passed, expected, actual := String.ofList actual
      message := if passed then "" else "Output mismatch" }
  | .timedOut => { name, passed := false, expected, message := Child.timeoutMessage path }
  | .notStarted => { name, passed := false, expected, message := Child.notStartedMessage }

end Fixture

end ParenCalc
