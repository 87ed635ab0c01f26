import HostSnapshot.Identity
import HostSnapshot.Mounts
import HostSnapshot.Text.Integer

namespace HostSnapshot

structure Partition where
  name : String
  type : String
  uuid : String
  size : Int
  label : String
  filesystemLabel : String
  mountPoint : String
  readOnly : Bool
deriving DecidableEq, Repr

structure Disk where
  name : String
  partitions : List Partition
deriving DecidableEq, Repr

def sectorSize : Int := 512

def Device.bytes (d : Device) : Except Fault Int :=
  match d.size with
  | none => .error (.missingKey "size")
  | some text => match Text.Integer.ofText text with
    | .ok n => .ok (n * sectorSize)
    | .error m => .error (.malformedInteger m)

/-- The size of a device, or zero with a note. -/
def Device.knownBytes (d : Device) : Traced Int :=
  match d.bytes with
  | .ok n => return n
  | .error e => do
    Traced.debug "block" s!"no size for {d.name}: {e.message}"
    return 0

def deviceFile (name : String) : String := "/dev/" ++ name

def Device.partition (d : Device) (mounts : Mounts) : Traced Partition := do
  let mount := (mounts.lookup (deviceFile d.name)).getD ⟨"", false⟩
  let size ← d.knownBytes
  return {
    name := d.name
    type := d.property "ID_FS_TYPE"
    uuid := d.property "ID_PART_ENTRY_UUID"
    size := size
    label := d.property "ID_PART_ENTRY_NAME"
    filesystemLabel := d.property "ID_FS_LABEL"
    mountPoint := mount.point
    readOnly := mount.readOnly
  }

namespace Disk

def byName (devices : List Device) : List Device :=
  devices.mergeSort fun a b => a.name ≤ b.name

def names (devices : List Device) : List String :=
  ((byName (devices.filter (·.type = .disk))).map (·.name)).eraseDups

def placed? (known : List String) (mounts : Mounts) (d : Device) :
    Traced (Option (String × Partition)) :=
  match d.parent with
  | some parent =>
    if known.contains parent then do return some (parent, ← d.partition mounts)
    else skip
  | none => skip
where
  skip : Traced (Option (String × Partition)) := do
    Traced.debug "block" s!"partition {d.name} has no known disk, skipping"
    return none

def group (known : List String) (placed : List (String × Partition)) : List Disk :=
  known.map fun name => ⟨name, (placed.filter (·.1 = name)).map (·.2)⟩

/-- The disks in a device list, given what is mounted. -/
def ofDevices (devices : List Device) (mounts : Mounts) : Traced (List Disk) := do
  let known := names devices
  -- Partitions go by name, so those of each disk come in that order as well.
  let placed ← (byName (devices.filter (·.type = .partition))).mapM (placed? known mounts)
  let disks := group known (placed.filterMap id)
  disks.forM fun disk =>
    Traced.log .trace "block" s!"disk {disk.name}: {disk.partitions.length} partitions"
  return disks

end Disk

def mountsPath : String := "/proc/mounts"

namespace View

def mounts (v : View) : Traced Mounts :=
  Traced.orDefault Fault.isSystem "block" s!"cannot read {mountsPath}" []
    ((v.readText mountsPath).map Mounts.ofText)

/-- The block devices. That they cannot be listed is a fault of its own if a library is missing or
the system refuses. -/
def devices (v : View) : Except Fault (List Device) :=
  match v.host.devices with
  | .ok ds => .ok ds
  | .error f =>
    if f.family = .library || f.isSystem then .error (.enumeration f none)
    else .error (.outside f)

def disks (v : View) : Traced (List Disk) := do
  let devices ← Traced.ofExcept v.devices
  let mounts ← v.mounts
  Disk.ofDevices devices mounts

end View

end HostSnapshot
