import HostSnapshot.Disk
import HostSnapshot.Mounts
import HostSnapshot.Tool

namespace HostSnapshot

/-- A found partition of some size, which must not be negative. -/
def Partition.state (p : Partition) (mountPoint : String) (readOnly : Bool) :
    Except Fault PartitionState :=
  if p.size < 0 then .error (.invalid [⟨.negative, ["size_bytes"], .int p.size⟩])
  else .ok (.found {
    name := deviceFile p.name
    label := p.label
    filesystemLabel := p.filesystemLabel
    mountPoint := mountPoint
    size := p.size.toNat
    type := p.type
    readOnly := readOnly
    uuid := p.uuid
  })

/-- Whether `findmnt` has something to add. -/
def Partition.wantsMount (p : Partition) : Bool :=
  p.mountPoint = "" && p.filesystemLabel ≠ ""

namespace View

def partitionState (v : View) (p : Partition) : Traced PartitionState := do
  let mount ← if p.wantsMount then v.findmnt p.filesystemLabel else pure none
  -- What the mount table told stands unless `findmnt` tells of one mount.
  match mount with
  | none => Traced.ofExcept (p.state p.mountPoint p.readOnly)
  | some m => do
    let readOnly ← MountOptions.readOnly m.options p.readOnly
    Traced.ofExcept (p.state m.target readOnly)

end View

def FoundDevice.state (d : FoundDevice) : PartitionState :=
  .found {
    name := d.path
    label := ""
    filesystemLabel := d.label
    mountPoint := d.mountPoint
    size := 0
    type := d.type
    readOnly := d.readOnly
    uuid := ""
  }

namespace View

/-- The state of the one device with a label that `lsblk` knows. -/
def volumeState (v : View) (label : String) : Traced PartitionState := do
  match ← v.lsblk label with
  | some d => return d.state
  | none => return .absent

end View

namespace Disk

def allPartitions (disks : List Disk) : List Partition := disks.flatMap (·.partitions)

def labelled (label : String) (disks : List Disk) : List Partition :=
  (allPartitions disks).filter (·.filesystemLabel = label)

/-- A note for each partition that another one with its label displaces. -/
def noteDisplaced (label : String) : List Partition → Traced Unit
  | p :: q :: rest => do
    Traced.debug "partitions"
      s!"{label} found on both {p.name} and {q.name}, using the latter"
    noteDisplaced label (q :: rest)
  | _ => return ()

/-- The last partition with a label. -/
def withLabel (label : String) (disks : List Disk) : Traced (Option Partition) := do
  let found := labelled label disks
  noteDisplaced label found
  return found.getLast?

end Disk

namespace View

def resolve (v : View) (role : Role) (disks : List Disk) : Traced PartitionState := do
  let note (s : String) := Traced.debug "partitions" s!"{role.name}: {s}"
  match ← Disk.withLabel role.label disks with
  | some p =>
    let state ← v.partitionState p
    note s!"{state.facts.name} via block devices"
    return state
  | none =>
    if role.mayBeVolume then
      let state ← v.volumeState role.label
      if state.isFound then note s!"{state.facts.name} via lsblk"
      return state
    else
      note "not found"
      return .absent

def resolveAll (v : View) (disks : List Disk) : Traced (List (Role × PartitionState)) :=
  Role.all.mapM fun role => do return (role, ← v.resolve role disks)

end View

end HostSnapshot
