import ParenCalc.ParseError
import ParenCalc.Token
import ParenCalc.Tree

namespace ParenCalc

namespace Log

inductive Level
  | debug
  | info
  | warning
  | error
  | critical
  deriving DecidableEq, Repr

namespace Level

def rank : Level → Nat
  | .debug => 10
  | .info => 20
  | .warning => 30
  | .error => 40
  | .critical => 50

def name : Level → String
  | .debug => "DEBUG"
  | .info => "INFO"
  | .warning => "WARNING"
  | .error => "ERROR"
  | .critical => "CRITICAL"

/--
The capital form of `c`, as far as it consists of the letters `A` to `Z`: beyond `a` to `z`, there
are two letters and two joined pairs of letters that have such a form.
-/
def toUpper (c : Char) : List Char :=
  if c = 'ı' then ['I']
  else if c = 'ſ' then ['S']
  else if c = 'ﬅ' ∨ c = 'ﬆ' then ['S', 'T']
  else [c.toUpper]

/--
What has a name like a level and is none: the layout of the lines, and the styles of layouts.
-/
inductive NoLevel
  | layout
  | styles
  deriving DecidableEq, Repr

def NoLevel.message : NoLevel → String
  | .layout => "Unknown level: '%(levelname)s:%(name)s:%(message)s'"
  | .styles =>
    "Level not an integer or a valid string: \x7b" ++
      "'%': (<class 'logging.PercentStyle'>, '%(levelname)s:%(name)s:%(message)s'), " ++
      "'\x7b': (<class 'logging.StrFormatStyle'>, " ++
      "'\x7blevelname\x7d:\x7bname\x7d:\x7bmessage\x7d'), " ++
      "'$': (<class 'logging.StringTemplateStyle'>, " ++
      "'$\x7blevelname\x7d:$\x7bname\x7d:$\x7bmessage\x7d')\x7d"

/--
The least rank that is shown at the level with the given name, in any case. Some levels have two
names, one stands below all, and a name that stands for nothing counts as that of information.
-/
def rankOfName (name : String) : Except NoLevel Nat :=
  match String.ofList (name.toList.flatMap toUpper) with
  | "CRITICAL" | "FATAL" => .ok 50
  | "ERROR" => .ok 40
  | "WARNING" | "WARN" => .ok 30
  | "DEBUG" => .ok 10
  | "NOTSET" => .ok 0
  | "BASIC_FORMAT" => .error .layout
  | "_STYLES" => .error .styles
  | _ => .ok info.rank

end Level

/--
The least rank that is shown: all from debugging up when the user asks for it, else from the named
level, which is that of information where none is named.
-/
def threshold (verbose : Bool) (levelName : Option String) : Except Level.NoLevel Nat :=
  if verbose then .ok Level.debug.rank else Level.rankOfName (levelName.getD "")

def configure (configurations : List (Bool × Option String)) : Except Level.NoLevel (List Nat) :=
  match configurations with
  | [] => .ok []
  | (verbose, levelName) :: _ =>
    (threshold verbose levelName).map fun least => configurations.map fun _ => least

inductive Entry
  | running (path : String)
  | lexed (token : Token)
  | noExpression (token : Token)
  | parseFailed (error : ParseError)
  | evaluated (tree : Tree) (value : Nat)
  | programEvaluated (value : Nat)
  | lineFailed (line : Nat) (message : String)
  | note (level : Level) (message : String)

namespace Entry

def level : Entry → Level
  | .running _ => .info
  | .lexed _ => .debug
  | .noExpression _ => .debug
  | .parseFailed _ => .debug
  | .evaluated _ _ => .debug
  | .programEvaluated _ => .info
  | .lineFailed _ _ => .debug
  | .note level _ => level

def message : Entry → String
  | .running path => "running " ++ path
  | .lexed token => "lexed " ++ token.describe
  | .noExpression token => "no top-level expression at " ++ token.describe
  | .parseFailed error => "parse failed: " ++ error.message
  | .evaluated tree value => "evaluated " ++ tree.constructors ++ " -> " ++ toString value
  | .programEvaluated value => "program evaluated to " ++ toString value
  | .lineFailed line message => "line " ++ toString line ++ " failed: " ++ message
  | .note _ message => message

def line (entry : Entry) : String :=
  "00:00:00 - " ++ entry.level.name ++ " - " ++ entry.message ++ "\n"

end Entry

/--
What is shown of reports. A log that was never configured shows the bare messages of warnings and
worse.
-/
def render (configured : Option Nat) (entries : List Entry) : String :=
  match configured with
  | some threshold =>
    String.join ((entries.filter fun entry => threshold ≤ entry.level.rank).map Entry.line)
  | none =>
    String.join
      ((entries.filter fun entry => Level.warning.rank ≤ entry.level.rank).map fun entry =>
        entry.message ++ "\n")

end Log

end ParenCalc
