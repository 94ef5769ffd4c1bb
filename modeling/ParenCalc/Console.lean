import ParenCalc.Log

/-!
This module contains what a command writes, in order: to standard output, to standard error, and to
the log, which is shown on standard error as far as it was asked for.
-/

namespace ParenCalc

namespace Console

inductive Event
  | out (text : String)
  | err (text : String)
  | log (entry : Log.Entry)

def stdout (events : List Event) : String :=
  String.join (events.map text)
where
  text : Event → String
    | .out text => text
    | _ => ""

/--
What the events write to standard error, where the log shows what has at least the configured rank.
-/
def stderr (configured : Option Nat) (events : List Event) : String :=
  String.join (events.map text)
where
  text : Event → String
    | .out _ => ""
    | .err text => text
    | .log entry => Log.render configured [entry]

end Console

end ParenCalc
