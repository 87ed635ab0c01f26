import HostSnapshot.Text.Basic
import HostSnapshot.Traced

namespace HostSnapshot

inductive DeviceType
  | disk
  | partition
  | other
deriving DecidableEq, Repr

structure Device where
  name : String
  type : DeviceType
  parent : Option String
  properties : List (String × String)
  /-- The size attribute, in sectors, as text. -/
  size : Option String
deriving DecidableEq, Repr

def Device.property (d : Device) (key : String) : String := (d.properties.lookup key).getD ""

structure ToolResult where
  output : String
  errors : String
  status : Int
deriving DecidableEq, Repr

def ToolResult.succeeded (r : ToolResult) : Bool := r.status = 0

def ToolResult.text (bytes : List UInt8) : Except Failure String :=
  match Text.Utf8.strict bytes with
  | .ok s => .ok (String.ofList (Text.unifyLineEnds s))
  | .error u => .error ⟨"UnicodeDecodeError", .other, undecodableMessage u⟩

/-- What comes of a tool that printed some bytes and ended. -/
def ToolResult.ofBytes (output errors : List UInt8) (status : Int) : Except Failure ToolResult := do
  -- Both texts are read before anything is made of the status.
  let output ← text output
  let errors ← text errors
  return ⟨output, errors, status⟩

structure Machine where
  hostname : String
  randomUuid : String
  architecture : String
  kernelRelease : String
  kernelVersion : String
  timezone : String
  cores : Option Int
  threads : Option Int
  memory : Except Failure Int

structure Environment where
  uuid : Option String
  hostRoot : Option String

structure Host where
  files : FileSystem
  devices : Except Failure (List Device)
  /-- What running a command comes to: starting it can fail, and so can reading what it prints. -/
  tool : List String → Except Failure ToolResult
  machine : Machine
  environment : Environment

/-- A host as it is looked at: under which root, where the files are that belong below that root,
and where tools run. -/
structure View where
  host : Host
  root : Path
  files : Path
  directory : String

namespace View

/-- The files below a root are where the root says, and tools run there. -/
def ofRoot (host : Host) (root : Path) : View := ⟨host, root, root, root.text⟩

def isLive (v : View) : Bool := v.root = Path.slash

def readBytes (v : View) (hostPath : String) : Except Fault (List UInt8) :=
  let p := v.files.below hostPath
  if p.holdsNull then .error .nullInPath
  else (v.host.files.read p).mapError (Sum.elim .file fun r => .outside r.failure)

/-- The text of a host file. Bytes that are not UTF-8 are replaced. -/
def readText (v : View) (hostPath : String) : Except Fault (List Char) :=
  (v.readBytes hostPath).map fun bytes => Text.unifyLineEnds (Text.Utf8.replace bytes)

/-- The text of a host file, whose bytes have to be UTF-8. -/
def readStrict (v : View) (hostPath : String) : Except Fault (List Char) := do
  let bytes ← v.readBytes hostPath
  let s ← (Text.Utf8.strict bytes).mapError Fault.undecodable
  return Text.unifyLineEnds s

def readIfThere (v : View) (hostPath : String) : Except Fault (Option (List Char)) :=
  match v.readText hostPath with
  | .ok s => .ok (some s)
  | .error e => if e.isSystem then .ok none else .error e

end View

end HostSnapshot
