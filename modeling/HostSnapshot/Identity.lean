import HostSnapshot.Host

namespace HostSnapshot

def commandLinePath : String := "/proc/cmdline"

namespace View

/-- The boot, where the command line is UTF-8 if it can be read at all. -/
def detectBoot (v : View) : Traced Boot :=
  Traced.orDefault Fault.isSystem "boot" s!"cannot read {commandLinePath}" .unknown
    ((v.readStrict commandLinePath).map Boot.classify)

/-- The boot, whatever bytes the command line holds. -/
def readBoot (v : View) : Except Fault Boot := (v.readText commandLinePath).map Boot.classify

def boot (v : View) : Traced Boot :=
  Traced.orDefault Fault.isSystem "runtime" s!"cannot read {commandLinePath}" .unknown v.readBoot

end View

def releasePath : String := "/etc/os-release"

/-- Keys with their texts, in the order in which the keys first come. -/
abbrev Release := List (String × String)

namespace Release

def set : Release → String → String → Release
  | [], key, value => [(key, value)]
  | (k, v) :: rest, key, value =>
    if k = key then (k, value) :: rest else (k, v) :: set rest key value

/-- A value without blanks around it, then without double quotes, then without single ones. -/
def unquote (s : List Char) : List Char :=
  Text.stripEnds (· == '\x27') (Text.stripEnds (· == '"') (Text.strip s))

/-- The assignment on a line; blank lines, comments and lines without one say nothing. -/
def ofLine? (line : List Char) : Option (String × String) :=
  let s := Text.strip line
  if s.isEmpty || s.head? = some '#' || !s.contains '=' then none
  else
    let key := s.takeWhile (· ≠ '=')
    let value := (s.dropWhile (· ≠ '=')).drop 1
    some (String.ofList (Text.strip key), String.ofList (unquote value))

def ofAssignments (assignments : List (String × String)) : Release :=
  assignments.foldl (fun r (k, v) => r.set k v) []

def ofText (s : List Char) : Release := ofAssignments ((Text.lines s).filterMap ofLine?)

def get? (r : Release) (key : String) : Option String := r.lookup key

def getD (r : Release) (key default : String) : String := (r.get? key).getD default

/-- The text of the distribution's own variant of a key, or else of the key. -/
def preferred? (r : Release) (key : String) : Option String :=
  (r.get? ("KAIROS_" ++ key)).or (r.get? key)

end Release

namespace View

def release (v : View) (key : String) : Except Fault String := do
  let s ← v.readText releasePath
  match (Release.ofText s).preferred? key with
  | some text => return text
  | none => throw (.missingKey key)

def releaseOrNote (v : View) (key what : String) : Traced String :=
  Traced.orDefault Fault.isAbsence "kairos" s!"no {what} in {releasePath}" "" (v.release key)

def flavor (v : View) : Traced String := v.releaseOrNote "FLAVOR" "flavor"

def distribution (v : View) : Traced Distribution := do
  let version ← v.releaseOrNote "VERSION" "version"
  let flavor ← v.flavor
  return ⟨flavor, version⟩

end View

def machineIdPath : String := "/etc/machine-id"

def hostnamePath : String := "/etc/hostname"

/-- The first line of a text without blanks around it, and without blanks around the line. -/
def Text.firstLine (s : List Char) : List Char :=
  Text.strip ((Text.lines (Text.strip s)).headD [])

namespace View

def firstLine (v : View) (hostPath : String) : Except Fault String :=
  (v.readIfThere hostPath).map fun s => String.ofList (Text.firstLine (s.getD []))

/-- The name that stands in for an empty one: only a live host has the name of this machine. -/
def orHostname (v : View) (live : Bool) (name : String) : String :=
  if name = "" && live then v.host.machine.hostname else name

def identity (v : View) (live : Bool) : Except Fault String := do
  match v.host.environment.uuid with
  -- A variable that is empty counts as one that is not set.
  | some uuid => if uuid ≠ "" then return uuid
  | none => pure ()
  let machineId ← v.firstLine machineIdPath
  let name := v.orHostname live (← v.firstLine hostnamePath)
  let known := [machineId, name].filter (· ≠ "")
  if known.isEmpty then return v.host.machine.randomUuid
  else return "-".intercalate known

end View

end HostSnapshot
