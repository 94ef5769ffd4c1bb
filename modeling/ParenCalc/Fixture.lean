import ParenCalc.Command
import ParenCalc.Fixture.Options
import ParenCalc.Fixture.Suite

/-!
This module contains the fixture runner. A fixture is a program `tNAME.dh` with its expectations
next to it in `tNAME.expected.txt`; the runner finds those in a directory, runs them, and sums up.
-/

namespace ParenCalc

open Console (Event)

namespace Fixture

def isFixtureName (name : String) : Bool :=
  let chars := name.toList
  ['t'].isPrefixOf chars && ['.', 'd', 'h'].isSuffixOf chars

def stem (name : String) : String :=
  String.ofList (name.toList.take (name.length - 3))

inductive Absence
  | noDirectory (path : String)
  | noFixtures (path : String)
  deriving DecidableEq, Repr

def Absence.message : Absence → String
  | .noDirectory path => "Fixtures directory not found: " ++ path
  | .noFixtures path => "No fixtures found in " ++ path

def discover (tree : FileTree) (directory : Path) :
    Except Abort (Except Absence (List String)) :=
  match tree.lookup directory with
  | .nameTooLong => .error (.nameTooLong (toString directory))
  | .missing => .ok (.error (.noDirectory (toString directory)))
  | .file _ => .ok (.error (.noFixtures (toString directory)))
  | .directory =>
    let names := (tree.names directory.parts).filter isFixtureName
    .ok (if names = [] then .error (.noFixtures (toString directory)) else .ok names)

/--
How the calculator runs the program at `path`. Of a run that is aborted, what was written before
counts, and it counts as a failure.
-/
def runChild (host : Command.Host) (tree : FileTree) (path : String) : Child :=
  let report := Command.execute host ["run", path] {} tree.lookup
  match report.ending with
  | .ok status => .exited status report.stdout report.stderr
  | .error _ => .exited 1 report.stdout report.stderr

def difference (result : Result) : List Event :=
  [.out ("---- expected ----\n" ++ result.expected ++ "\n"),
    .out ("---- actual ----\n" ++ result.actual ++ "\n")]

def readExpected (path : String) : FileTree.Lookup → Except Abort (Option (List Char))
  | .file bytes =>
    match Text.decodeFile bytes with
    | .ok text => .ok (some text)
    | .error fault => .error (.undecodable fault)
  | .directory => .error (.isDirectory path)
  | .missing => .ok none
  | .nameTooLong => .error (.nameTooLong path)

def check (verbose : Bool) (tree : FileTree) (directory : Path)
    (child : (stem path : String) → Child) (file : String) : Except Abort (List Event × Result) :=
  let name := stem file
  let expectations := directory.child (name ++ ".expected.txt")
  match readExpected (toString expectations) (tree.lookup expectations) with
  | .error abort => .error abort
  | .ok none =>
    .ok ([],
      { name, passed := false, message := "Missing expected file: " ++ toString expectations })
  | .ok (some expected) =>
    let path := toString (directory.child file)
    let child := child name path
    let result := judge name path expected child
    let running := Event.log (.note .debug ("Running: " ++ " ".intercalate (Child.command path)))
    match child with
    | .exited _ _ _ =>
      .ok (running :: if verbose && !result.passed then difference result else [], result)
    | _ =>
      .ok ([running, .log (.note .error ("Failed to run " ++ name ++ ": " ++ result.message))],
        result)

structure Progress where
  suite : Suite := {}
  events : List Event := []
  abort : Option Abort := none

def collect {α : Type} (failFast : Bool) (check : α → Except Abort (List Event × Result)) :
    Progress → List α → Progress
  | progress, [] => progress
  | progress, fixture :: fixtures =>
    match check fixture with
    | .error abort => { progress with abort := some abort }
    | .ok (events, result) =>
      let progress := { progress with
        suite := progress.suite.add result
        events := progress.events ++ events ++ [.out (result.line ++ "\n")] }
      if failFast && !result.passed then progress else collect failFast check progress fixtures

structure Report where
  events : List Event
  configured : Option Nat := none
  ending : Except Abort Nat
  suite : Option Suite := none

namespace Report

def stdout (report : Report) : String :=
  Console.stdout report.events

def stderr (report : Report) : String :=
  Console.stderr report.configured report.events

end Report

def runAll (options : Options) (tree : FileTree) (directory : Path)
    (check : (file : String) → Except Abort (List Event × Result)) : Report :=
  let configured := some (if options.verbose then Log.Level.debug.rank else Log.Level.info.rank)
  match discover tree directory with
  | .error abort => { events := [], configured, ending := .error abort, suite := some {} }
  | .ok (.error absence) =>
    { events := [.log (.note .error ("Fixture discovery failed: " ++ absence.message))]
      configured, ending := .ok 1, suite := some {} }
  | .ok (.ok files) =>
    let found := Event.log
      (.note .debug ("Discovered " ++ toString files.length ++ " fixtures"))
    let progress := collect options.failFast check { events := [found] } files
    let suite := some progress.suite
    match progress.abort with
    | some abort => { events := progress.events, configured, ending := .error abort, suite }
    | none =>
      { events := progress.events ++ [.out progress.suite.summary]
        configured, ending := .ok progress.suite.status, suite }

def execute (arguments : List String) (tree : FileTree) (child : (stem path : String) → Child) :
    Report :=
  match Options.ofArguments arguments with
  | .error ending =>
    { events := [.out ending.stdout, .err ending.stderr], ending := .ok ending.status }
  | .ok options =>
    match options.directory with
    | none => { events := [], ending := .error .noDirectory }
    | some directory =>
      if directory.toList.contains '\x00' then { events := [], ending := .error .nullInPath }
      else
        let directory := Path.resolve tree.workingDirectory (.ofString directory)
        runAll options tree directory (check options.verbose tree directory child)

end Fixture

end ParenCalc
