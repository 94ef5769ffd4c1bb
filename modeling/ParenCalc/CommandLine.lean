import ParenCalc.Text.Quoted

/-!
This module contains the reading of command lines. An argument that starts with a dash names
options: a long one, which may be abbreviated, with its value behind an equals sign or in the next
argument; or short ones joined to each other. What remains are words. Behind two dashes there are
only words.
-/

namespace ParenCalc

namespace CommandLine

/--
What an option does to the settings of type `σ` that a command line makes. The value of an option
may be limited to some choices. Two dashes as the value are none: they are allowed whatever the
choices.
-/
inductive Action (σ : Type)
  | help
  | flag (set : σ → σ)
  | value (choices : List String) (set : Option String → σ → σ)

structure Flag (σ : Type) where
  names : List String
  action : Action σ

inductive Words
  | none
  | one
  | command
  deriving DecidableEq, Repr

structure Grammar (σ : Type) where
  program : String
  usage : String
  help : String
  flags : List (Flag σ)
  words : Words

inductive Stop
  | help
  | misuse (message : String)
  deriving DecidableEq, Repr

structure Reading (σ : Type) where
  settings : σ
  words : List String := []
  extra : List String := []

/--
What an argument is: an option, maybe with something attached to its name; an option that does not
exist; a word; or the two dashes behind which there are only words.
-/
inductive Item (σ : Type)
  | flag (flag : Flag σ) (isLong : Bool) (attached : Option (List Char))
  | unknownFlag
  | word
  | dashes

variable {σ : Type}

def Flag.title (flag : Flag σ) : String :=
  "/".intercalate flag.names

def Flag.misuse (flag : Flag σ) (message : String) : Stop :=
  .misuse ("argument " ++ flag.title ++ ": " ++ message)

def find? (flags : List (Flag σ)) (name : List Char) : Option (Flag σ) :=
  flags.find? fun flag => flag.names.contains (String.ofList name)

def namings (flags : List (Flag σ)) : List (Flag σ × List Char) :=
  flags.flatMap fun flag => flag.names.map fun name => (flag, name.toList)

def isLong (name : List Char) : Bool :=
  ['-', '-'].isPrefixOf name

def cutAtEquals (text : List Char) : List Char × Option (List Char) :=
  match text.dropWhile (· != '=') with
  | [] => (text, none)
  | _ :: attached => (text.takeWhile (· != '='), some attached)

/--
The options that an argument may mean which names none exactly, with the name meant. A long name may
be abbreviated. Of an argument with a single dash, all behind the first letter may be attached to
it.
-/
def candidates (flags : List (Flag σ)) (argument : List Char) :
    List (List Char × Item σ) :=
  if isLong argument then
    let (start, attached) := cutAtEquals argument
    (namings flags).filterMap fun (flag, name) =>
      if start.isPrefixOf name then some (name, .flag flag true attached) else none
  else
    (namings flags).filterMap fun (flag, name) =>
      if name = argument.take 2 then some (name, .flag flag false (some (argument.drop 2)))
      else if argument.isPrefixOf name then some (name, .flag flag (isLong name) none)
      else none

/--
Whether a text is a negative number: a dash and digits, and maybe a point among them that digits
follow. A line end may stand behind it.
-/
def isNegativeNumber (text : List Char) : Bool :=
  match text with
  | '-' :: number =>
    let number := if number.getLast? = some '\n' then number.dropLast else number
    let whole := number.takeWhile Text.isDecimalDigit
    match number.dropWhile Text.isDecimalDigit with
    | [] => !whole.isEmpty
    | '.' :: places => !places.isEmpty && places.all Text.isDecimalDigit
    | _ => false
  | _ => false

def classify (flags : List (Flag σ)) (argument : String) : Except Stop (Item σ) :=
  let chars := argument.toList
  match chars with
  | '-' :: _ :: _ =>
    match find? flags chars with
    | some flag => .ok (.flag flag (isLong chars) none)
    | none =>
      let (name, attached) := cutAtEquals chars
      match attached, find? flags name with
      | some attached, some flag => .ok (.flag flag (isLong name) (some attached))
      | _, _ =>
        match candidates flags chars with
        | [(_, item)] => .ok item
        | [] =>
          if isNegativeNumber chars ∨ ' ' ∈ chars then .ok .word else .ok .unknownFlag
        | several =>
          .error (.misuse ("ambiguous option: " ++ argument ++ " could match " ++
            ", ".intercalate (several.map fun candidate => String.ofList candidate.1)))
  | _ => .ok .word

def classifyAll (flags : List (Flag σ)) : List String → Except Stop (List (String × Item σ))
  | [] => .ok []
  | argument :: rest =>
    if argument = "--" then .ok ((argument, .dashes) :: rest.map fun word => (word, .word))
    else do
      let item ← classify flags argument
      let items ← classifyAll flags rest
      return (argument, item) :: items

abbrev Use (σ : Type) := Flag σ × Option String

def Flag.ignores (flag : Flag σ) (attached : List Char) : Stop :=
  flag.misuse ("ignored explicit argument " ++ Text.quote (String.ofList attached))

/--
The options that one argument names, which starts with `flag` and goes on with `attached`. Behind a
short option that takes no value comes another one.
-/
def unjoin (flags : List (Flag σ)) (flag : Flag σ) (isLong : Bool) :
    List Char → Except Stop (List (Use σ))
  | attached =>
    match flag.action, attached with
    | .value _ _, _ => .ok [(flag, some (String.ofList attached))]
    | _, [] => .error (flag.ignores [])
    | _, letter :: rest => if isLong then .error (flag.ignores attached) else go flag letter rest
where
  go (flag : Flag σ) (letter : Char) : List Char → Except Stop (List (Use σ))
    | [] =>
      match find? flags ['-', letter] with
      | some next => .ok [(flag, none), (next, none)]
      | none => .error (flag.ignores [letter])
    | next :: rest =>
      match find? flags ['-', letter] with
      | some found =>
        match found.action with
        | .value _ _ => .ok [(flag, none), (found, some (String.ofList (next :: rest)))]
        | _ => (go found next rest).map ((flag, none) :: ·)
      | none => .error (flag.ignores (letter :: next :: rest))

def uses (flags : List (Flag σ)) (flag : Flag σ) (isLong : Bool) :
    Option (List Char) → Except Stop (List (Use σ))
  | none => .ok [(flag, none)]
  | some attached => unjoin flags flag isLong attached

def needsValue (use : Use σ) : Bool :=
  match use.1.action, use.2 with
  | .value _ _, none => true
  | _, _ => false

def giveValue (value : String) (uses : List (Use σ)) : List (Use σ) :=
  match uses.getLast? with
  | some (flag, _) => uses.dropLast ++ [(flag, some value)]
  | none => []

def apply (settings : σ) (use : Use σ) : Except Stop σ :=
  match use.1.action, use.2 with
  | .help, _ => .error .help
  | .flag set, _ => .ok (set settings)
  | .value _ _, none => .error (use.1.misuse "expected one argument")
  | .value choices set, some value =>
    if value = "--" then .ok (set none settings)
    else if choices = [] ∨ value ∈ choices then .ok (set (some value) settings)
    else
      .error (use.1.misuse ("invalid choice: " ++ Text.quote value ++ " (choose from " ++
        ", ".intercalate (choices.map Text.quote) ++ ")"))

def readItems (flags : List (Flag σ)) (kind : Words) (reading : Reading σ) :
    List (String × Item σ) → Except Stop (Reading σ)
  | [] => .ok reading
  | (argument, .unknownFlag) :: rest =>
    readItems flags kind { reading with extra := reading.extra ++ [argument] } rest
  | (_, .flag flag isLong attached) :: rest => do
    let uses ← uses flags flag isLong attached
    if uses.any needsValue then
      match rest with
      | (value, .word) :: rest =>
        let settings ← (giveValue value uses).foldlM apply reading.settings
        readItems flags kind { reading with settings } rest
      | _ => .error ((uses.getLast?.map (·.1)).getD flag |>.misuse "expected one argument")
    else
      let settings ← uses.foldlM apply reading.settings
      readItems flags kind { reading with settings } rest
  | (argument, .word) :: rest =>
    match kind with
    | .none => readItems flags kind { reading with extra := reading.extra ++ [argument] } rest
    | .command => .ok { reading with words := argument :: rest.map (·.1) }
    | .one =>
      match rest with
      | (_, .dashes) :: rest => readItems flags .none { reading with words := [argument] } rest
      | rest => readItems flags .none { reading with words := [argument] } rest
  | (argument, .dashes) :: rest =>
    match kind, rest with
    | .command, _ :: _ => .ok { reading with words := argument :: rest.map (·.1) }
    | .one, (word, _) :: rest => readItems flags .none { reading with words := [word] } rest
    | .one, [] => .ok reading
    | _, rest => readItems flags kind { reading with extra := reading.extra ++ [argument] } rest

def Grammar.read (grammar : Grammar σ) (settings : σ) (arguments : List String) :
    Except Stop (Reading σ) := do
  let items ← classifyAll grammar.flags arguments
  readItems grammar.flags grammar.words { settings } items

def unrecognized (extra : List String) : Stop :=
  .misuse ("unrecognized arguments: " ++ " ".intercalate extra)

structure Ending where
  status : Nat
  stdout : String := ""
  stderr : String := ""
  deriving DecidableEq, Repr

def Grammar.ending (grammar : Grammar σ) : Stop → Ending
  | .help => { status := 0, stdout := grammar.help }
  | .misuse message =>
    { status := 2
      stderr := grammar.usage ++ grammar.program ++ ": error: " ++ message ++ "\n" }

end CommandLine

end ParenCalc
