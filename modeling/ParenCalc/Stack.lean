/-!
This module contains how many parentheses may be open at once in a program. The parser calls itself
for each of them, on a stack that it shares with the command that it works for and with the log.
-/

namespace ParenCalc

inductive Caller
  | runFile
  | runInput
  | show
  | session
  deriving DecidableEq, Repr

/--
The calls from a command down to the outermost expression of its program, both included.
-/
def Caller.calls : Caller → Nat
  | .runFile => 7
  | .runInput => 6
  | .show => 5
  | .session => 10

/--
The calls that reading a token takes, which are more where the log shows it.
-/
def tokenCalls (shown : Bool) : Nat :=
  if shown then 14 else 4

/--
The number of parentheses that may be open at once where the stack has room for so many calls. What
stands in them has to be read, and every one of them takes two calls.
-/
def nestingLimit (room : Nat) (shown : Bool) (caller : Caller) : Nat :=
  (room - (caller.calls + tokenCalls shown)) / 2

end ParenCalc
