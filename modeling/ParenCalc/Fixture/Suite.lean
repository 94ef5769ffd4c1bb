import ParenCalc.Fixture.Verdict

namespace ParenCalc

namespace Fixture

structure Suite where
  results : List Result := []
  deriving DecidableEq, Repr

namespace Suite

def passedCount (suite : Suite) : Nat :=
  suite.results.countP (·.passed)

def failedCount (suite : Suite) : Nat :=
  suite.results.countP (!·.passed)

def add (suite : Suite) (result : Result) : Suite :=
  { results := suite.results ++ [result] }

def status (suite : Suite) : Nat :=
  if suite.failedCount = 0 then 0 else 1

def rule : String := String.ofList (List.replicate 50 '=')

def failures (suite : Suite) : List String :=
  (suite.results.filter (!·.passed)).map fun result =>
    "  - " ++ result.name ++ ": " ++ result.message ++ "\n"

def summary (suite : Suite) : String :=
  "\n" ++ rule ++ "\n" ++
    "Fixture Summary: " ++ toString suite.passedCount ++ " passed, " ++
      toString suite.failedCount ++ " failed\n" ++ rule ++ "\n" ++
    (if suite.failedCount = 0 then "" else "\nFailed fixtures:\n" ++ String.join suite.failures)

theorem passedCount_add_failedCount (suite : Suite) :
    suite.passedCount + suite.failedCount = suite.results.length := by
  simp only [passedCount, failedCount]
  induction suite.results with
  | nil => rfl
  | cons result results ih =>
    cases h : result.passed <;> simp [h] at ih ⊢ <;> omega

end Suite

end Fixture

end ParenCalc
