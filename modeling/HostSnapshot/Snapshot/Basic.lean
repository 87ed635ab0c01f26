import HostSnapshot.Json.Basic
import HostSnapshot.Text.Basic

namespace HostSnapshot

inductive Role
  | persistent
  | recovery
  | oem
  | state
deriving DecidableEq, Repr

namespace Role

def all : List Role := [persistent, recovery, oem, state]

def name : Role → String
  | persistent => "persistent"
  | recovery => "recovery"
  | oem => "oem"
  | state => "state"

def ofName? (text : String) : Option Role := all.find? fun role => role.name = text

def label : Role → String
  | persistent => "COS_PERSISTENT"
  | recovery => "COS_RECOVERY"
  | oem => "COS_OEM"
  | state => "COS_STATE"

/-- Roles whose partition may be a logical volume, which the device list does not show. -/
def mayBeVolume : Role → Bool
  | recovery => true
  | oem => true
  | _ => false

end Role

inductive Boot
  | active
  | passive
  | recovery
  | liveMedia
  | unknown
deriving DecidableEq, Repr

namespace Boot

def all : List Boot := [active, passive, recovery, liveMedia, unknown]

def name : Boot → String
  | active => "active_boot"
  | passive => "passive_boot"
  | recovery => "recovery_boot"
  | liveMedia => "livecd_boot"
  | unknown => "unknown"

def ofName? (text : String) : Option Boot := all.find? fun boot => boot.name = text

/-- What a command line holds that boots a system; nothing is a sign of an unknown one. -/
def markers : Boot → List String
  | active => ["COS_ACTIVE"]
  | passive => ["COS_PASSIVE"]
  | recovery => ["COS_RECOVERY", "COS_SYSTEM"]
  | liveMedia => ["live:LABEL", "live:CDLABEL", "netboot"]
  | unknown => []

def classify (commandLine : List Char) : Boot :=
  (all.find? fun boot => boot.markers.any fun m => Text.occurs m.toList commandLine).getD unknown

/-- Systems in the order in which they are looked for, the first of them highest. -/
def priority : Boot → Nat
  | active => 4
  | passive => 3
  | recovery => 2
  | liveMedia => 1
  | unknown => 0

end Boot

/-- What is known of a partition that was found. -/
structure Partition.Found where
  name : String
  label : String
  filesystemLabel : String
  mountPoint : String
  size : Nat
  type : String
  readOnly : Bool
  uuid : String
deriving DecidableEq, Repr

inductive PartitionState
  | absent
  | found (partition : Partition.Found)
deriving DecidableEq, Repr

namespace PartitionState

def isFound : PartitionState → Bool
  | absent => false
  | found _ => true

/-- What is shown of a partition; nothing is known of an absent one. -/
def facts : PartitionState → Partition.Found
  | absent => ⟨"", "", "", "", 0, "", false, ""⟩
  | found p => p

def isMounted (s : PartitionState) : Bool := s.facts.mountPoint ≠ ""

end PartitionState

structure Distribution where
  flavor : String
  version : String
deriving DecidableEq, Repr

structure Snapshot where
  uuid : String
  persistent : PartitionState
  recovery : PartitionState
  oem : PartitionState
  state : PartitionState
  boot : Boot
  system : Json.Members
  distribution : Distribution

namespace Snapshot

def empty : Snapshot := ⟨"", .absent, .absent, .absent, .absent, .unknown, [], ⟨"", ""⟩⟩

def partition (s : Snapshot) : Role → PartitionState
  | .persistent => s.persistent
  | .recovery => s.recovery
  | .oem => s.oem
  | .state => s.state

end Snapshot

end HostSnapshot
