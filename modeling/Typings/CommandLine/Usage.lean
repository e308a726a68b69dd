import Typings.CommandLine.Options

/-!
# Usage and help
-/

namespace Typings

def commandName : String := "flow2dts"

def usage : String :=
  "usage: flow2dts [-h] [--dump] [-o OUTPUT] [--flow-bin FLOW_BIN] [--indent N]\n"
    ++ "                [-v]\n"
    ++ "                input\n"

/-- What the command and its options do. -/
def help : String :=
  usage
    ++ "\nFlow to TypeScript Declaration Transpiler\n"
    ++ "\npositional arguments:\n"
    ++ "  input                 Input Flow file (or .json parser output)\n"
    ++ "\noptions:\n"
    ++ "  -h, --help            show this help message and exit\n"
    ++ "  --dump                Print the raw parser tree as JSON instead of\n"
    ++ "                        transpiling\n"
    ++ "  -o OUTPUT, --output OUTPUT\n"
    ++ "                        Write to this file instead of stdout\n"
    ++ "  --flow-bin FLOW_BIN   Flow executable used for parsing\n"
    ++ "  --indent N            Spaces per nesting level inside declare module bodies\n"
    ++ "  -v, --verbose         Print every diagnostic instead of a summary\n"

/-- The complaint about arguments that are refused. -/
def UsageError.complaint (e : UsageError) : String :=
  usage ++ commandName ++ ": error: " ++ e.message ++ "\n"

end Typings
