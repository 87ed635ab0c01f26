import HostSnapshot.Host
import HostSnapshot.Json.Field

namespace HostSnapshot

def ToolResult.notFound : ToolResult := ⟨"", "Command not found", 127⟩

/-- Runs a command; a tool that is not there gives a result like any other failure. -/
def View.run (v : View) (tool : String) (arguments : List String) : Traced ToolResult := do
  let command := tool :: arguments
  Traced.debug "exec" ("running " ++ " ".intercalate command)
  Traced.ran command v.directory
  match v.host.tool command with
  | .ok r =>
    if !r.succeeded then
      Traced.debug "exec" s!"{tool} exited {r.status}: {stripped r.errors}"
    return r
  | .error f =>
    if f.family = .missingFile then
      Traced.debug "exec" s!"{tool}: command not found"
      return .notFound
    -- Only a tool that is missing is a result; other failures are not forgiven.
    else throw (.outside f)

def labelFile (label : String) : String := "/dev/disk/by-label/" ++ label

/-- Reads the list under a key, each of whose items has to be an object. -/
def Json.readRecords? (key : String) (read : Json.Members → Option α) : Json → Option (List α)
  | .obj ms => match Json.Members.find? ms key with
    | none => some []
    | some (.arr items) => items.mapM fun
      | .obj ms => read ms
      | _ => none
    | some _ => none
  | _ => none

def Json.Members.optionalText? (ms : Json.Members) (key : String) : Option String :=
  match ms.find? key with
  | none => some ""
  | some .null => some ""
  | some (.str s) => some s
  | some _ => none

structure FoundMount where
  target : String
  options : String
deriving DecidableEq, Repr

def FoundMount.ofMembers? (ms : Json.Members) : Option FoundMount := do
  return ⟨← ms.optionalText? "target", ← ms.optionalText? "fs-options"⟩

def FoundMount.listOf? (output : String) : Option (List FoundMount) := do
  Json.readRecords? "filesystems" FoundMount.ofMembers? (← Json.ofOutput? output)

structure FoundDevice where
  path : String
  mountPoint : String
  type : String
  label : String
  readOnly : Bool
deriving DecidableEq, Repr

def FoundDevice.flag? (ms : Json.Members) : Option Bool :=
  match ms.find? "ro" with
  | none => some false
  | some .null => some false
  | some v => (Json.readFlag v).toOption

/-- The path may be missing but not null. The size has to be text but says nothing. -/
def FoundDevice.ofMembers? (ms : Json.Members) : Option FoundDevice := do
  let path ← match ms.find? "path" with
    | some .null => none
    | _ => ms.optionalText? "path"
  let mountPoint ← ms.optionalText? "mountpoint"
  let type ← ms.optionalText? "fstype"
  let _ ← ms.optionalText? "size"
  let label ← ms.optionalText? "label"
  let readOnly ← flag? ms
  return ⟨path, mountPoint, type, label, readOnly⟩

def FoundDevice.listOf? (output : String) : Option (List FoundDevice) := do
  Json.readRecords? "blockdevices" FoundDevice.ofMembers? (← Json.ofOutput? output)

def findmntArguments (label : String) : List String :=
  [labelFile label, "-f", "-J", "-o", "TARGET,FS-OPTIONS"]

def lsblkArguments (label : String) : List String :=
  [labelFile label, "-o", "PATH,FSTYPE,MOUNTPOINT,SIZE,RO,LABEL", "-J"]

/-- Asks a tool about a label. It has to answer with exactly one thing. -/
def View.ask (v : View) (tool label : String) (arguments : List String) (things : String)
    (read? : String → Option (List α)) : Traced (Option α) := do
  let note := Traced.debug "partitions"
  let r ← v.run tool arguments
  if !r.succeeded then
    note s!"{tool} for {label} failed: {stripped r.errors}"
    return none
  Traced.log .trace "partitions" s!"{tool} {label}: {r.output}"
  match read? r.output with
  | none =>
    note s!"{tool} for {label} returned unparsable output:"
    return none
  | some [thing] => return some thing
  | some found =>
    note s!"{tool} for {label} returned {found.length} {things}, ignoring"
    return none

def View.findmnt (v : View) (label : String) : Traced (Option FoundMount) :=
  v.ask "findmnt" label (findmntArguments label) "filesystems" FoundMount.listOf?

def View.lsblk (v : View) (label : String) : Traced (Option FoundDevice) :=
  v.ask "lsblk" label (lsblkArguments label) "devices" FoundDevice.listOf?

end HostSnapshot
