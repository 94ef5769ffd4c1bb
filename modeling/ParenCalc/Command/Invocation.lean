import ParenCalc.Command.Help
import ParenCalc.CommandLine

namespace ParenCalc

namespace Command

inductive Name
  | run
  | parse
  | tokens
  | shell
  | interactive
  | version
  deriving DecidableEq, Repr

namespace Name

def all : List Name :=
  [.run, .parse, .tokens, .shell, .interactive, .version]

protected def toString : Name → String
  | .run => "run"
  | .parse => "parse"
  | .tokens => "tokens"
  | .shell => "shell"
  | .interactive => "interactive"
  | .version => "version"

instance : ToString Name := ⟨Name.toString⟩

def ofString? (text : String) : Option Name :=
  all.find? fun name => toString name == text

def takesInput : Name → Bool
  | .run | .parse | .tokens => true
  | _ => false

end Name

inductive Format
  | tree
  | source
  deriving DecidableEq, Repr

namespace Format

protected def toString : Format → String
  | .tree => "tree"
  | .source => "source"

instance : ToString Format := ⟨Format.toString⟩

def all : List Format := [.tree, .source]

def ofString? (text : String) : Option Format :=
  all.find? fun format => toString format == text

end Format

/--
What a command line asks for. The input `-` is standard input. Where no format is left, expressions
are shown as without the option for it.
-/
structure Invocation where
  interactive : Bool := false
  name : Option Name := none
  verbose : Bool := false
  input : String := "-"
  format : Option Format := some .tree
  deriving DecidableEq, Repr

namespace Invocation

def opensSession (invocation : Invocation) : Bool :=
  invocation.interactive || invocation.name = some .shell || invocation.name = some .interactive

def readsInput (invocation : Invocation) : Bool :=
  !invocation.opensSession && invocation.name.any Name.takesInput

open CommandLine (Flag Grammar Stop Ending)

def helpFlag : Flag Invocation where
  names := ["-h", "--help"]
  action := .help

def interactiveFlag : Flag Invocation where
  names := ["-i", "--interactive"]
  action := .flag fun invocation => { invocation with interactive := true }

def verboseFlag : Flag Invocation where
  names := ["-v", "--verbose"]
  action := .flag fun invocation => { invocation with verbose := true }

def formatFlag : Flag Invocation where
  names := ["--format"]
  action := .value (Format.all.map toString) fun value invocation =>
    { invocation with format := value.bind Format.ofString? }

def grammar : Grammar Invocation where
  program := "dharma"
  usage := Help.usage
  help := Help.usage ++ Help.calculatorHelp
  flags := [helpFlag, interactiveFlag]
  words := .command

def inputGrammar (command : String) : Grammar Invocation where
  program := "dharma " ++ command
  usage := Help.commandUsage command " [input]"
  help := Help.commandUsage command " [input]" ++ Help.inputHelp
  flags := [helpFlag, verboseFlag]
  words := .one

def plainGrammar (command : String) : Grammar Invocation where
  program := "dharma " ++ command
  usage := Help.commandUsage command ""
  help := Help.commandUsage command "" ++ Help.plainHelp
  flags := [helpFlag, verboseFlag]
  words := .none

def parseGrammar : Grammar Invocation where
  program := "dharma parse"
  usage := Help.commandUsage "parse" " [--format \x7btree,source\x7d] [input]"
  help := Help.commandUsage "parse" " [--format \x7btree,source\x7d] [input]" ++ Help.parseHelp
  flags := [helpFlag, verboseFlag, formatFlag]
  words := .one

def commandGrammar : Name → Grammar Invocation
  | .run => inputGrammar "run"
  | .parse => parseGrammar
  | .tokens => inputGrammar "tokens"
  | .shell | .interactive => plainGrammar "shell"
  | .version => plainGrammar "version"

def unknownCommand (command : String) : Stop :=
  .misuse ("argument command: invalid choice: " ++ Text.quote command ++ " (choose from " ++
    ", ".intercalate (Name.all.map fun name => Text.quote (toString name)) ++ ")")

/--
What the arguments of the calculator ask for. Arguments without a place are reported last, and for
the calculator as a whole.
-/
def ofArguments (arguments : List String) : Except Ending Invocation :=
  match grammar.read {} arguments with
  | .error stop => .error (grammar.ending stop)
  | .ok reading =>
    match reading.words with
    | [] => finish reading.settings reading.extra
    | command :: rest =>
      match Name.ofString? command with
      | none => .error (grammar.ending (unknownCommand command))
      | some name =>
        match (commandGrammar name).read { reading.settings with name } rest with
        | .error stop => .error ((commandGrammar name).ending stop)
        | .ok behind =>
          let settings := match behind.words with
            | input :: _ => { behind.settings with input }
            | [] => behind.settings
          finish settings (reading.extra ++ behind.extra)
where
  finish (invocation : Invocation) (extra : List String) : Except Ending Invocation :=
    if extra = [] then .ok invocation
    else .error (grammar.ending (CommandLine.unrecognized extra))

end Invocation

end Command

end ParenCalc
