import HostSnapshot.Json.Field
import HostSnapshot.Snapshot.Basic

namespace HostSnapshot

/-- A partition, once the members that were given are read. -/
def PartitionState.ofFound (given : Json.Members) (isFound : Bool) (p : Partition.Found) :
    Checked PartitionState :=
  if isFound then .ok (.found p)
  else if p = PartitionState.absent.facts then .ok .absent
  else .error [⟨.absentWithData, [], .obj given⟩]

/-- Reads a partition. Whether it is mounted is not read but follows from its mount point. -/
def PartitionState.ofMembers (ms : Json.Members) : Checked PartitionState :=
  let (name, i₁) := ms.field ["name"] Json.readText ""
  let (label, i₂) := ms.field ["label"] Json.readText ""
  let (filesystemLabel, i₃) := ms.field ["filesystemlabel", "filesystem_label"] Json.readText ""
  let (mountPoint, i₄) := ms.field ["mount_point"] Json.readText ""
  let (size, i₅) := ms.field ["size_bytes"] Json.readNat 0
  let (type, i₆) := ms.field ["type"] Json.readText ""
  let (readOnly, i₇) := ms.field ["read_only", "is_read_only"] Json.readFlag false
  let (isFound, i₈) := ms.field ["found"] Json.readFlag false
  let (uuid, i₉) := ms.field ["uuid"] Json.readText ""
  match i₁ ++ i₂ ++ i₃ ++ i₄ ++ i₅ ++ i₆ ++ i₇ ++ i₈ ++ i₉ with
  | [] => PartitionState.ofFound ms isFound
      ⟨name, label, filesystemLabel, mountPoint, size, type, readOnly, uuid⟩
  | issues => .error issues

def PartitionState.ofJson : Json → Checked PartitionState
  | .obj ms => PartitionState.ofMembers ms
  | v => .error [⟨.model "PartitionState", [], v⟩]

def Distribution.ofMembers (ms : Json.Members) : Checked Distribution :=
  let (flavor, i₁) := ms.field ["flavor"] Json.readText ""
  let (version, i₂) := ms.field ["version"] Json.readText ""
  match i₁ ++ i₂ with
  | [] => .ok ⟨flavor, version⟩
  | issues => .error issues

def Distribution.ofJson : Json → Checked Distribution
  | .obj ms => Distribution.ofMembers ms
  | v => .error [⟨.model "Kairos", [], v⟩]

def Boot.ofJson (v : Json) : Except Problem Boot :=
  let problem : Problem := .choice (Boot.all.map Boot.name)
  match v with
  | .str s => match Boot.ofName? s with
    | some boot => .ok boot
    | none => .error problem
  | _ => .error problem

def Json.readMembers : Json → Except Problem Json.Members
  | .obj ms => .ok ms
  | _ => .error .object

def Snapshot.ofMembers (ms : Json.Members) : Checked Snapshot :=
  let (uuid, i₁) := ms.field ["uuid"] Json.readText ""
  let (persistent, i₂) := ms.part "persistent" PartitionState.ofJson .absent
  let (recovery, i₃) := ms.part "recovery" PartitionState.ofJson .absent
  let (oem, i₄) := ms.part "oem" PartitionState.ofJson .absent
  let (state, i₅) := ms.part "state" PartitionState.ofJson .absent
  let (boot, i₆) := ms.field ["boot", "boot_state"] Boot.ofJson .unknown
  let (system, i₇) := ms.field ["system"] Json.readMembers []
  let (distribution, i₈) := ms.part "kairos" Distribution.ofJson ⟨"", ""⟩
  match i₁ ++ i₂ ++ i₃ ++ i₄ ++ i₅ ++ i₆ ++ i₇ ++ i₈ with
  | [] => .ok ⟨uuid, persistent, recovery, oem, state, boot, system, distribution⟩
  | issues => .error issues

def Snapshot.ofJson : Json → Checked Snapshot
  | .obj ms => Snapshot.ofMembers ms
  | v => .error [⟨.model "Runtime", [], v⟩]

end HostSnapshot
