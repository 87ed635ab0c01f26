import HostSnapshot.CommandLine.Grammar
import HostSnapshot.FileSystem

namespace HostSnapshot.CommandLine

/-- What is printed: the whole snapshot, as JSON or as text, or the answer to a query. -/
inductive Command
  | snapshot (json : Bool)
  | get (query : String)
deriving DecidableEq, Repr

structure Arguments where
  hostRoot : Path
  debug : Bool
  trace : Bool
  command : Command
deriving DecidableEq, Repr

def usage : String :=
  "usage: kairos-state [-h] [--host-root HOST_ROOT] [--debug] [--trace]\n" ++
  "                    \x7bshow,get\x7d ...\n"

def usageOfShow : String := "usage: kairos-state show [-h] [--json]\n"

def usageOfGet : String := "usage: kairos-state get [-h] query\n"

def help : String :=
  usage ++ "\n" ++
  "Show boot mode and Kairos partition layout of this host.\n\n" ++
  "positional arguments:\n" ++
  "  \x7bshow,get\x7d\n" ++
  "    show                Print the whole snapshot (default)\n" ++
  "    get                 Print the result of a jq query, e.g. 'oem.mount_point'\n\n" ++
  "options:\n" ++
  "  -h, --help            show this help message and exit\n" ++
  "  --host-root HOST_ROOT\n" ++
  "                        Root of the host to inspect (default:\n" ++
  "                        $KAIROS_STATE_HOST_ROOT or /)\n" ++
  "  --debug               Log every absorbed failure and command\n" ++
  "  --trace               Also log raw tool output\n"

def helpOfShow : String :=
  usageOfShow ++ "\n" ++
  "options:\n" ++
  "  -h, --help  show this help message and exit\n" ++
  "  --json      Print JSON instead of text\n"

def helpOfGet : String :=
  usageOfGet ++ "\n" ++
  "positional arguments:\n" ++
  "  query\n\n" ++
  "options:\n" ++
  "  -h, --help  show this help message and exit\n"

def helpFlag : Flag := ⟨["-h", "--help"], false⟩

def program : Grammar where
  program := "kairos-state"
  usage := usage
  help := help
  flags := [helpFlag, ⟨["--host-root"], true⟩, ⟨["--debug"], false⟩, ⟨["--trace"], false⟩]
  operand := .command "command" ["show", "get"]

def programShow : Grammar where
  program := "kairos-state show"
  usage := usageOfShow
  help := helpOfShow
  flags := [helpFlag, ⟨["--json"], false⟩]
  operand := .none

def programGet : Grammar where
  program := "kairos-state get"
  usage := usageOfGet
  help := helpOfGet
  flags := [helpFlag]
  operand := .text "query"

/-- The command with its arguments, and those that have no place. Without one the snapshot is
shown as text. -/
def readCommand (r : Reading) : Except Exit (Command × List String) :=
  match r.operand with
  | none => .ok (.snapshot false, [])
  | some name =>
    if name = "get" then do
      let r ← programGet.read r.arguments
      return (.get (r.operand.getD ""), r.extras)
    else do
      let r ← programShow.read r.arguments
      return (.snapshot (r.has "--json"), r.extras)

/-- Reads the command line. The environment may say which host is meant. -/
def Arguments.ofList (environmentRoot : Option String) (arguments : List String) :
    Except Exit Arguments := do
  let r ← program.read arguments
  let (command, extras) ← readCommand r
  match r.extras ++ extras with
  | [] => return {
      hostRoot := Path.ofText ((r.value? "--host-root").getD (environmentRoot.getD "/"))
      debug := r.has "--debug"
      trace := r.has "--trace"
      command := command
    }
  | extras => program.fail ("unrecognized arguments: " ++ " ".intercalate extras)

def Exit.output : Exit → String
  | help text => text
  | failure .. => ""

def Exit.errors : Exit → String
  | help _ => ""
  | failure usage program message => s!"{usage}{program}: error: {message}\n"

def Exit.status : Exit → Nat
  | help _ => 0
  | failure .. => 2

end HostSnapshot.CommandLine
