import ParenCalc.Command.Invocation
import ParenCalc.Lexer.Listing
import ParenCalc.Session
import ParenCalc.Stack
import ParenCalc.Tree.Printing

namespace ParenCalc

open Console (Event)

namespace Command

/--
What a command finds where it starts: the room that the stack has for calls, and the colour in which
sessions show errors.
-/
structure Host where
  room : Nat
  paint : String → String

def Host.limit (host : Host) : (verbose : Bool) → Caller → Nat :=
  nestingLimit host.room

/--
What a command wrote, from which rank on its log was shown, and its exit status unless it was
aborted.
-/
structure Report where
  events : List Event
  configured : Option Nat := none
  ending : Except Abort Nat

namespace Report

def stdout (report : Report) : String :=
  Console.stdout report.events

def stderr (report : Report) : String :=
  Console.stderr report.configured report.events

end Report

abbrev Result := List Event × Except Abort Nat

def failure (log : List Log.Entry) (message : String) : Result :=
  (log.map .log ++ [.err ("[dharma] Error: " ++ message ++ "\n")], .ok 1)

def showRun (run : Run) : Result :=
  match run.outcome.message?, run.outcome.value? with
  | some message, _ => failure run.log message
  | none, some value =>
    match writeValue value with
    | .ok digits => (run.log.map .log ++ [.out (digits ++ "\n")], .ok 0)
    | .error abort => (run.log.map .log, .error abort)
  | none, none => (run.log.map .log, .ok 0)

def run (limit : Caller → Nat) (stdin : Source) (lookup : Path → FileTree.Lookup)
    (input : String) : Result :=
  if input = "-" then showRun (Run.ofSource (limit .runInput) stdin)
  else
    let path := Path.ofString input
    match Run.ofLookup (limit .runFile) (toString path) (lookup path) with
    | .ok run => showRun run
    | .error abort => ([], .error abort)

def openInput (stdin : Source) (lookup : Path → FileTree.Lookup) (input : String) :
    Except Result Source :=
  if input = "-" then .ok stdin
  else
    let path := Path.ofString input
    match lookup path with
    | .file bytes => .ok (.ofBytes bytes)
    | .directory => .error (failure [] ((Outcome.isDirectory (toString path)).message?.getD ""))
    | .missing => .error (failure [] ((Outcome.notFound input).message?.getD ""))
    | .nameTooLong => .error ([], .error (.nameTooLong (toString path)))

def showTree (tree : Tree) : Format → Except Tree.PrintError String
  | .tree => tree.outline 0
  | .source => tree.render

def parse (limit : Nat) (source : Source) (format : Format) : Result :=
  match Parser.topLevel limit { source } with
  | .ok e lexer =>
    let log := Run.parseReport lexer none
    match showTree (.ofExpr e) format with
    | .ok text => (log.map .log ++ [.out (text ++ "\n")], .ok 0)
    | .error error => failure log error.message
  | .error cause lexer =>
    failure (Run.parseReport lexer (some cause)) ((Outcome.ofFailure cause).message?.getD "")

def tokens (source : Source) : Result :=
  let (listing, lexer) := Lexer.tokens { source }
  let lines := listing.tokens.map fun token => Event.out (token.listing ++ "\n")
  let log := lexer.lexed.reverse.map Log.Entry.lexed
  match listing.fault with
  | none => (lines ++ log.map .log, .ok 0)
  | some fault =>
    let (events, ending) := failure log ((Outcome.undecodable fault).message?.getD "")
    (lines ++ events, ending)

def version : Result :=
  ([.out "dharma version 0.1.0\n", .out "Author: dharma Team\n"], .ok 0)

def shell (session : Session) (stdin : Source) : Result :=
  let step := session.run stdin
  match step.verdict with
  | .aborts abort => (step.events, .error abort)
  | _ => (step.events, .ok 0)

def perform (limit : Caller → Nat) (paint : String → String) (invocation : Invocation)
    (stdin : Source) (lookup : Path → FileTree.Lookup) : Result :=
  if invocation.opensSession then shell { limit := limit .session, paint } stdin
  else
    match invocation.name with
    | some .run => run limit stdin lookup invocation.input
    | some .parse =>
      match openInput stdin lookup invocation.input with
      | .ok source => parse (limit .show) source (invocation.format.getD .tree)
      | .error result => result
    | some .tokens =>
      match openInput stdin lookup invocation.input with
      | .ok source => tokens source
      | .error result => result
    | some .version => version
    | _ => ([.out Invocation.grammar.help], .ok 2)

def execute (host : Host) (arguments : List String) (stdin : Source)
    (lookup : Path → FileTree.Lookup) : Report :=
  match Invocation.ofArguments arguments with
  | .error ending =>
    { events := [.out ending.stdout, .err ending.stderr], ending := .ok ending.status }
  | .ok invocation =>
    let settings : Settings := {}
    let limit := host.limit invocation.verbose
    let (events, ending) := perform limit host.paint invocation stdin lookup
    { events
      configured := (Log.threshold invocation.verbose (some settings.logLevel)).toOption
      ending }

end Command

end ParenCalc
