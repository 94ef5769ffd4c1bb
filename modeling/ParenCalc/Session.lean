import ParenCalc.Console
import ParenCalc.Run
import ParenCalc.Settings
import ParenCalc.Source.Lines
import ParenCalc.Text.Blank

/-!
This module contains the interactive session. Every line is a program of its own, unless it is a
command of the session.
-/

namespace ParenCalc

open Console (Event)

/--
A session. The stack leaves its programs room for `limit` open parentheses, and `paint` is how the
message of one that failed is coloured.
-/
structure Session where
  settings : Settings := {}
  limit : Nat
  paint : String → String
  programCount : Nat := 0

namespace Session

inductive Request
  | leave
  | nothing
  | help
  | endOfInput
  | program (text : List Char)
  deriving DecidableEq, Repr

def isWordChar (c : Char) : Bool :=
  c.isAlphanum || c == '_'

def helpWord : List Char := "help".toList

def endWord : List Char := "EOF".toList

/--
What a line asks for once the blanks at its ends are gone. A question mark stands for the command
`help`. A command word is followed by the end of the line or by a character that no word has. All
that is no command is a program.
-/
def Request.ofTrimmed (line : List Char) : Request :=
  match line with
  | [] => .nothing
  | '?' :: _ => .help
  | _ =>
    let word := line.takeWhile isWordChar
    if word = helpWord then .help
    else if word = endWord then .endOfInput
    else .program line

def Request.ofLine (settings : Settings) (line : List Char) : Request :=
  let line := Text.trim line
  if line = settings.exitCommand.toList then .leave else .ofTrimmed line

inductive Verdict
  | goesOn
  | ends
  | aborts (abort : Abort)
  deriving DecidableEq, Repr

def helpText (settings : Settings) : String :=
  "Type a digit or a parenthesized expression such as ((1+2)*4).\n" ++
    "Only + and * are supported. Type '" ++ settings.exitCommand ++ "' to quit.\n"

def answer (paint : String → String) (count : Nat) (outcome : Outcome) : List Event × Verdict :=
  match outcome.message?, outcome.value? with
  | some message, _ =>
    ([.log (.lineFailed count message), .err (paint message ++ "\n")], .goesOn)
  | none, some value =>
    match writeValue value with
    | .ok digits => ([.out (digits ++ "\n")], .goesOn)
    | .error abort => ([], .aborts abort)
  | none, none => ([], .goesOn)

structure Step where
  session : Session
  events : List Event
  verdict : Verdict

def request (session : Session) : Request → Step
  | .leave => ⟨session, [], .ends⟩
  | .nothing => ⟨session, [], .goesOn⟩
  | .help => ⟨session, [.out (helpText session.settings)], .goesOn⟩
  | .endOfInput => ⟨session, [.out "\n"], .ends⟩
  | .program text =>
    let session := { session with programCount := session.programCount + 1 }
    let run := Run.ofSource session.limit (.ofText text)
    let (events, verdict) := answer session.paint session.programCount run.outcome
    ⟨session, run.log.map .log ++ events, verdict⟩

def step (session : Session) (line : List Char) : Step :=
  session.request (.ofLine session.settings line)

/--
Process lines, each after a prompt, until one ends the session. The end of the lines counts as the
line `endWord`, unless they end in a fault.
-/
def converse (session : Session) (lines : List (List Char)) (fault : Option Text.Utf8.Fault) :
    Step :=
  go session lines []
where
  go (session : Session) : List (List Char) → (written : List (List Event)) → Step
    | [], written =>
      let written := [.out session.settings.prompt] :: written
      match fault with
      | some fault => ⟨session, written.reverse.flatten, .aborts (.undecodable fault)⟩
      | none =>
        let last := session.step endWord
        ⟨last.session, (last.events :: written).reverse.flatten, last.verdict⟩
    | line :: lines, written =>
      let next := session.step line
      let written := next.events :: [.out session.settings.prompt] :: written
      match next.verdict with
      | .goesOn => go next.session lines written
      | verdict => ⟨next.session, written.reverse.flatten, verdict⟩

def greeting (settings : Settings) : List Event :=
  if settings.intro = "" then [] else [.out (settings.intro ++ "\n")]

def run (session : Session) (source : Source) : Step :=
  let lines := source.lines
  let step := converse session lines.lines lines.fault
  { step with events := greeting session.settings ++ step.events }

end Session

end ParenCalc
