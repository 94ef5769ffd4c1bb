import ParenCalc.Command

namespace ParenCalc

open Command (Invocation)
open Console (Event)

namespace Program

/--
The stack has room for a thousand calls, a few of which are made before a command starts. Errors in
sessions are red.
-/
def host : Command.Host where
  room := 996
  paint text := "\x1b[31m" ++ text ++ "\x1b[0m"

def writeEvents (configured : Option Nat) (events : List Event) : IO Unit := do
  let stdout ← IO.getStdout
  let stderr ← IO.getStderr
  for event in events do
    stdout.putStr (Console.stdout [event])
    stdout.flush
    stderr.putStr (Console.stderr configured [event])

def exitStatus (ending : Except Abort Nat) : IO UInt32 := do
  match ending with
  | .ok status => return status.toUInt32
  | .error abort =>
    (← IO.getStderr).putStr (abort.message ++ "\n")
    return 1

partial def readAll (stdin : IO.FS.Stream) (read : ByteArray) : IO (List UInt8) := do
  let chunk ← stdin.read 65536
  if chunk.isEmpty then return read.toList else readAll stdin (read ++ chunk)

def lookUp (path : Path) : IO FileTree.Lookup := do
  try
    let bytes ← IO.FS.readBinFile (toString path)
    return .file bytes.toList
  catch error =>
    match error with
    | .inappropriateType (some _) 21 _ | .inappropriateType none 21 _ => return .directory
    | .invalidArgument (some _) 36 _ | .invalidArgument none 36 _ => return .nameTooLong
    | _ => return .missing

partial def converse (configured : Option Nat) (stdin : IO.FS.Stream) (session : Session) :
    IO UInt32 := do
  writeEvents configured [.out session.settings.prompt]
  let line ← stdin.getLine
  let step := session.step (if line.isEmpty then Session.endWord else line.toList)
  writeEvents configured step.events
  match step.verdict with
  | .goesOn => converse configured stdin step.session
  | .ends => return 0
  | .aborts abort => exitStatus (.error abort)

def run (arguments : List String) : IO UInt32 := do
  let stdin ← IO.getStdin
  match Invocation.ofArguments arguments with
  | .error ending =>
    writeEvents none [.out ending.stdout, .err ending.stderr]
    return ending.status.toUInt32
  | .ok invocation =>
    let settings : Settings := {}
    let configured := (Log.threshold invocation.verbose (some settings.logLevel)).toOption
    let limit := host.limit invocation.verbose
    if invocation.opensSession then
      writeEvents configured (Session.greeting settings)
      converse configured stdin { settings, limit := limit .session, paint := host.paint }
    else
      let input ← if invocation.readsInput && invocation.input == "-"
        then readAll stdin ByteArray.empty else pure []
      let found ← if invocation.readsInput && invocation.input != "-"
        then lookUp (.ofString invocation.input) else pure .missing
      let (events, ending) :=
        Command.perform limit host.paint invocation (.ofBytes input) fun _ => found
      writeEvents configured events
      exitStatus ending

end Program

end ParenCalc

def main (arguments : List String) : IO UInt32 :=
  ParenCalc.Program.run arguments
