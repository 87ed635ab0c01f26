import HostSnapshot.CommandLine.Report

namespace HostSnapshot.Main

def hostPaths : List String :=
  [commandLinePath, mountsPath, cpuInfoPath, machineIdPath, hostnamePath, releasePath] ++
    firmwareSections.flatMap fun (_, files) => files.map fun (_, file) => firmwarePath ++ file

/-- Where following components leads if every one is a directory. -/
def destination (parts : List String) : List String :=
  parts.foldl (fun place part => if part = ".." then place.dropLast else place ++ [part]) []

/-- Makes the directories on a way that are not there. -/
def openWay (tree : FileTree) (parts : List String) : FileTree :=
  (List.range (parts.length + 1)).foldl (fun tree n =>
    let way := parts.take n
    match FileSystem.follow tree [] way with
    | .ok _ => tree
    | .error _ => tree.put (destination way) (.dir [])) tree

def readBytes? (path : String) : IO (Option (List UInt8)) := do
  try return some (← IO.FS.readBinFile path).toList
  catch _ => return none

def readWord (path : String) : IO String := do
  return stripped (String.ofList (Text.Utf8.replace ((← readBytes? path).getD [])))

/-- The files below a root. Relative paths start at the root of the tree. -/
def readFiles (root : Path) : IO FileSystem := do
  let mut tree := openWay (.dir []) root.parts
  for hostPath in hostPaths do
    let path := root.below hostPath
    if let some bytes ← readBytes? path.text then
      tree := tree.put (destination path.parts) (.file bytes)
  return ⟨tree, []⟩

def countKey (key : String) (s : List Char) : Nat :=
  ((Text.lines s).filterMap Processors.entry?).countP (·.1 = key.toList)

/-- The size of the memory in bytes, from a table in which sizes are kilobytes. -/
def memorySize? (s : List Char) : Option Int := do
  let (_, value) ← ((Text.lines s).filterMap Processors.entry?).find? (·.1 = "MemTotal".toList)
  match Text.Integer.ofText (String.ofList ((Text.words value).headD [])) with
  | .ok n => some (n * 1024)
  | .error _ => none

def readMachine : IO Machine := do
  let threads := countKey "processor" (Text.Utf8.replace ((← readBytes? cpuInfoPath).getD []))
  let memory := memorySize? (Text.Utf8.replace ((← readBytes? "/proc/meminfo").getD []))
  return {
    hostname := ← readWord "/proc/sys/kernel/hostname"
    randomUuid := ← readWord "/proc/sys/kernel/random/uuid"
    architecture := ← readWord "/proc/sys/kernel/arch"
    kernelRelease := ← readWord "/proc/sys/kernel/osrelease"
    kernelVersion := ← readWord "/proc/sys/kernel/version"
    timezone := (← IO.getEnv "TZ").getD "UTC"
    cores := none
    threads := if threads = 0 then none else some threads
    memory := match memory with
      | some n => .ok n
      | none => .error ⟨"OSError", .system, "no memory table"⟩
  }

def noTool (command : List String) : Except Failure ToolResult :=
  let failure : FileFailure := ⟨.missing, Path.ofText (command.headD "")⟩
  .error ⟨"FileNotFoundError", .missingFile, failure.message⟩

def readHost (environment : Environment) (root : Path) : IO Host := do
  return {
    files := ← readFiles root
    devices := .error ⟨"ImportError", .library, "No library named udev"⟩
    tool := noTool
    machine := ← readMachine
    environment := environment
  }

end HostSnapshot.Main

open HostSnapshot in
def main (arguments : List String) : IO UInt32 := do
  let environment : Environment := ⟨← IO.getEnv "UUID", ← IO.getEnv "KAIROS_STATE_HOST_ROOT"⟩
  let root := match CommandLine.Arguments.ofList environment.hostRoot arguments with
    | .ok a => a.hostRoot
    | .error _ => Path.slash
  let host ← Main.readHost environment root
  match (CommandLine.run host arguments).outcome with
  | .ok report =>
    IO.eprint report.errors
    IO.print report.output
    return UInt32.ofNat report.status
  | .error fault =>
    IO.eprintln fault.message
    return 1
