namespace ParenCalc

namespace Command

namespace Help

def usage : String :=
  "usage: dharma [-h] [-i] \x7brun,parse,tokens,shell,interactive,version\x7d ...\n"

def commandUsage (command words : String) : String :=
  "usage: dharma " ++ command ++ " [-h] [-v]" ++ words ++ "\n"

def calculatorHelp : String :=
  String.join [
    "\n",
    "dharma: parenthesized arithmetic interpreter\n",
    "\n",
    "positional arguments:\n",
    "  \x7brun,parse,tokens,shell,interactive,version\x7d\n",
    "    run                 Parse and evaluate a program\n",
    "    parse               Print the expression tree of a program\n",
    "    tokens              Print the token stream of a program\n",
    "    shell (interactive)\n",
    "                        Start the interactive shell\n",
    "    version             Show version information\n",
    "\n",
    "options:\n",
    "  -h, --help            show this help message and exit\n",
    "  -i, --interactive     Start the interactive shell\n",
    "\n",
    "Examples:\n",
    "  echo \"((1+2)*4)\" | python -m dharma run\n",
    "  python -m dharma run program.dh\n",
    "  python -m dharma parse program.dh --format source\n",
    "  python -m dharma -i\n",
    "        \n"]

def inputHelp : String :=
  String.join [
    "\n",
    "positional arguments:\n",
    "  input          Program file, or - for standard input (default)\n",
    "\n",
    "options:\n",
    "  -h, --help     show this help message and exit\n",
    "  -v, --verbose  Enable verbose output\n"]

def parseHelp : String :=
  String.join [
    "\n",
    "positional arguments:\n",
    "  input                 Program file, or - for standard input (default)\n",
    "\n",
    "options:\n",
    "  -h, --help            show this help message and exit\n",
    "  -v, --verbose         Enable verbose output\n",
    "  --format \x7btree,source\x7d\n",
    "                        Output format (default: tree)\n"]

def plainHelp : String :=
  String.join [
    "\n",
    "options:\n",
    "  -h, --help     show this help message and exit\n",
    "  -v, --verbose  Enable verbose output\n"]

end Help

end Command

end ParenCalc
