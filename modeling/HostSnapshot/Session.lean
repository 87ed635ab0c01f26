import HostSnapshot.Facts
import HostSnapshot.Resolution
import HostSnapshot.Snapshot.Text

namespace HostSnapshot.View

def assemble (boot : Boot) (uuid : String) (system : Json.Members) (distribution : Distribution)
    (partitions : Role → PartitionState) : Snapshot where
  uuid := uuid
  persistent := partitions .persistent
  recovery := partitions .recovery
  oem := partitions .oem
  state := partitions .state
  boot := boot
  system := system
  distribution := distribution

/-- The fault of listing devices, with what was learnt before. -/
def keeping (learnt : Snapshot) : Fault → Fault
  | .enumeration cause _ => .enumeration cause (some learnt)
  | e => e

def disksOr (v : View) (learnt : Snapshot) : Traced (List Disk) :=
  let disks := v.disks
  ⟨disks.outcome.mapError (keeping learnt), disks.events⟩

def snapshot (v : View) : Traced Snapshot := do
  let boot ← v.boot
  let uuid ← Traced.ofExcept (v.identity v.isLive)
  let system ← v.facts v.isLive
  let distribution ← v.distribution
  -- From here on a fault of the device list keeps what was learnt.
  let disks ← v.disksOr (assemble boot uuid system distribution fun _ => .absent)
  let persistent ← v.resolve .persistent disks
  let recovery ← v.resolve .recovery disks
  let oem ← v.resolve .oem disks
  let state ← v.resolve .state disks
  let s := assemble boot uuid system distribution fun
    | .persistent => persistent
    | .recovery => recovery
    | .oem => oem
    | .state => state
  Traced.debug "runtime" s!"snapshot {uuid}: boot={boot.name}"
  return s

end HostSnapshot.View

namespace HostSnapshot

/-- Snapshots do not change: no field can be assigned. -/
def Snapshot.assign (_ : Snapshot) (field : String) (value : Json := .null) :
    Except Fault Snapshot :=
  .error (.invalid [⟨.frozen, [field], value⟩])

structure Session where
  current : Snapshot

namespace Session

def start : Session := ⟨.empty⟩

/-- The session after a snapshot was taken: what was learnt counts also where the devices cannot be
listed, and any other fault leaves the session as it is. -/
def after (s : Session) (taken : Traced Snapshot) : Session :=
  match taken.outcome with
  | .ok snapshot => ⟨snapshot⟩
  | .error (.enumeration _ (some learnt)) => ⟨learnt⟩
  | .error _ => s

end Session

end HostSnapshot
