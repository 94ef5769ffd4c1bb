import ParenCalc.Abort
import ParenCalc.Files.FileTree
import ParenCalc.Log

namespace ParenCalc

structure Run where
  outcome : Outcome
  source : Source
  log : List Log.Entry := []

namespace Run

def parseReport (lexer : Lexer) (failure : Option Parser.Failure) : List Log.Entry :=
  lexer.lexed.reverse.map .lexed ++
    match failure, lexer.current with
    | some (.malformed ⟨.noExpression, _⟩), some token => [.noExpression token]
    | _, _ => []

/--
What is reported about the end of a run. A value that cannot be written is not reported.
-/
def report : Outcome → List Log.Entry
  | .finished tree value =>
    if isWritable value then [.evaluated tree value, .programEvaluated value] else []
  | .malformed error => [.parseFailed error]
  | _ => []

def ofSource (limit : Nat) (source : Source) : Run :=
  match Parser.topLevel limit { source } with
  | .ok e lexer =>
    let outcome := Outcome.ofTree (.ofExpr e)
    ⟨outcome, lexer.source, parseReport lexer none ++ report outcome⟩
  | .error failure lexer =>
    let outcome := Outcome.ofFailure failure
    ⟨outcome, lexer.source, parseReport lexer (some failure) ++ report outcome⟩

def ofString (limit : Nat) (text : String) : Run :=
  ofSource limit (.ofString text)

def repeated (limit : Nat) : (count : Nat) → Source → List Run
  | 0, _ => []
  | count + 1, source =>
    let run := ofSource limit source
    run :: repeated limit count run.source

inductive Answer (ε : Type)
  | refused (error : ε)
  | absent
  | unreadable (reason : String)
  | readable (bytes : List UInt8)

def Answer.ofLookup (path : String) : FileTree.Lookup → Answer Abort
  | .file bytes => .readable bytes
  | .directory => .unreadable (Outcome.directoryMessage path)
  | .missing => .absent
  | .nameTooLong => .refused (.nameTooLong path)

def ofAnswer {ε : Type} (limit : Nat) (path : String) : Answer ε → Except ε Run
  | .readable bytes =>
    let run := ofSource limit (.ofBytes bytes)
    .ok { run with log := .running path :: run.log }
  | .unreadable reason => .ok ⟨.unreadable reason, {}, [.running path]⟩
  | .absent => .ok ⟨.notFound path, {}, []⟩
  | .refused error => .error error

def ofLookup (limit : Nat) (path : String) (found : FileTree.Lookup) : Except Abort Run :=
  ofAnswer limit path (.ofLookup path found)

def ofFile (limit : Nat) (tree : FileTree) (path : Path) : Except Abort Run :=
  ofLookup limit (toString path) (tree.lookup path)

end Run

end ParenCalc
