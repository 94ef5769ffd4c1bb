import ParenCalc.CommandLine

namespace ParenCalc

namespace Fixture

structure Options where
  directory : Option String := some "tests/fixtures"
  verbose : Bool := false
  failFast : Bool := false
  deriving DecidableEq, Repr

namespace Options

open CommandLine (Flag Grammar Ending)

def usage : String :=
  "usage: run_fixtures.py [-h] [--fixtures-dir FIXTURES_DIR] [-v] [--fail-fast]\n"

def fixturesHelp : String :=
  String.join [
    "\n",
    "Run dharma program fixtures\n",
    "\n",
    "options:\n",
    "  -h, --help            show this help message and exit\n",
    "  --fixtures-dir FIXTURES_DIR\n",
    "                        Directory containing fixtures (default:\n",
    "                        tests/fixtures)\n",
    "  -v, --verbose         Enable verbose output\n",
    "  --fail-fast           Stop on first failure\n"]

def helpFlag : Flag Options where
  names := ["-h", "--help"]
  action := .help

def directoryFlag : Flag Options where
  names := ["--fixtures-dir"]
  action := .value [] fun value options => { options with directory := value }

def verboseFlag : Flag Options where
  names := ["-v", "--verbose"]
  action := .flag fun options => { options with verbose := true }

def failFastFlag : Flag Options where
  names := ["--fail-fast"]
  action := .flag fun options => { options with failFast := true }

def grammar : Grammar Options where
  program := "run_fixtures.py"
  usage := usage
  help := usage ++ fixturesHelp
  flags := [helpFlag, directoryFlag, verboseFlag, failFastFlag]
  words := .none

def ofArguments (arguments : List String) : Except Ending Options :=
  match grammar.read {} arguments with
  | .error stop => .error (grammar.ending stop)
  | .ok reading =>
    if reading.extra = [] then .ok reading.settings
    else .error (grammar.ending (CommandLine.unrecognized reading.extra))

end Options

end Fixture

end ParenCalc
