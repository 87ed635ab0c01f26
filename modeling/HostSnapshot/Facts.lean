import HostSnapshot.Identity

namespace HostSnapshot

def firmwarePath : String := "/sys/class/dmi/id/"

/-- The sections that the firmware tells about: the name of each fact and of its attribute. -/
def firmwareSections : List (String × List (String × String)) := [
  ("product", [("name", "product_name"), ("vendor", "sys_vendor"),
    ("version", "product_version"), ("serial", "product_serial")]),
  ("board", [("name", "board_name"), ("vendor", "board_vendor"),
    ("version", "board_version"), ("serial", "board_serial")]),
  ("chassis", [("type", "chassis_type"), ("vendor", "chassis_vendor"),
    ("version", "chassis_version"), ("serial", "chassis_serial")]),
  ("bios", [("vendor", "bios_vendor"), ("version", "bios_version"), ("date", "bios_date")])]

def cpuInfoPath : String := "/proc/cpuinfo"

/-- What a list of processors says: of which make they are, and how many sockets there are. -/
structure Processors where
  vendor : String
  model : String
  sockets : Int
deriving DecidableEq, Repr

namespace Processors

def entry? (line : List Char) : Option (List Char × List Char) :=
  if line.contains ':' then
    some (Text.strip (line.takeWhile (· ≠ ':')), Text.strip ((line.dropWhile (· ≠ ':')).drop 1))
  else none

/-- The first vendor and the first model that are not empty count, and the highest socket. -/
def learn (p : Processors) (key value : List Char) : Except Fault Processors :=
  if key = "vendor_id".toList then
    .ok (if p.vendor = "" then { p with vendor := String.ofList value } else p)
  else if key = "model name".toList then
    .ok (if p.model = "" then { p with model := String.ofList value } else p)
  else if key = "physical id".toList then
    if !value.isEmpty && value.all Text.isDigit then
      match Text.Integer.ofText (String.ofList value) with
      | .ok n => .ok { p with sockets := max p.sockets (n + 1) }
      | .error m => .error (.malformedInteger m)
    else .ok p
  else .ok p

def ofText (s : List Char) : Except Fault Processors :=
  ((Text.lines (Text.strip s)).filterMap entry?).foldlM
    (fun p (key, value) => p.learn key value) ⟨"", "", 0⟩

end Processors

def megabyte : Int := 1024 * 1024

namespace View

def fact (v : View) (hostPath : String) : Except Fault String :=
  (v.readIfThere hostPath).map fun s => String.ofList (Text.strip (s.getD []))

def nodeFacts (v : View) (live : Bool) : Except Fault Json := do
  let name := v.orHostname live (← v.fact hostnamePath)
  let machineId ← v.fact machineIdPath
  return .obj [
    ("hostname", .str (String.ofList ((Text.lines name.toList).headD []))),
    ("machineid", .str machineId),
    ("timezone", .str v.host.machine.timezone)]

def releaseOrEmpty (v : View) : Traced Release :=
  Traced.orDefault Fault.isSystem "system" s!"cannot read {releasePath}" []
    ((v.readText releasePath).map Release.ofText)

def systemFacts (v : View) : Traced Json := do
  let release ← v.releaseOrEmpty
  return .obj [
    ("name", .str (release.getD "PRETTY_NAME" (release.getD "NAME" ""))),
    ("vendor", .str (release.getD "ID" "")),
    ("version", .str (release.getD "VERSION_ID" "")),
    ("release", .str (release.getD "VERSION" "")),
    ("architecture", .str v.host.machine.architecture)]

def kernelFacts (v : View) : Json :=
  .obj [
    ("release", .str v.host.machine.kernelRelease),
    ("version", .str v.host.machine.kernelVersion),
    ("architecture", .str v.host.machine.architecture)]

def firmwareFacts (v : View) : Except Fault Json.Members :=
  firmwareSections.mapM fun (part, files) => do
    let facts ← files.mapM fun (key, file) => do
      return (key, Json.str (← v.fact (firmwarePath ++ file)))
    return (part, .obj facts)

def processorFacts (v : View) : Except Fault Json := do
  let s ← v.readIfThere cpuInfoPath
  let p ← Processors.ofText (s.getD [])
  return .obj [
    ("vendor", .str p.vendor),
    ("model", .str p.model),
    ("cpus", .int p.sockets),
    ("cores", .int (v.host.machine.cores.getD 0)),
    ("threads", .int (v.host.machine.threads.getD 0))]

/-- The size of the memory in megabytes, or zero with a note if the system does not tell. -/
def memoryFacts (v : View) : Traced Json := do
  let bytes ← match v.host.machine.memory with
    | .ok n => pure n
    | .error f =>
      if f.isSystem || f.family = .runtime then do
        Traced.debug "system" s!"cannot read memory info: {f.message}"
        pure 0
      else throw (Fault.outside f)
  return .obj [("size", .int (Int.fdiv bytes megabyte))]

def facts (v : View) (live : Bool) : Traced Json.Members := do
  let node ← Traced.ofExcept (v.nodeFacts live)
  let system ← v.systemFacts
  let firmware ← Traced.ofExcept v.firmwareFacts
  let processors ← Traced.ofExcept v.processorFacts
  let memory ← v.memoryFacts
  return [("node", node), ("os", system), ("kernel", v.kernelFacts)] ++ firmware ++
    [("cpu", processors), ("memory", memory)]

end View

end HostSnapshot
