import HostSnapshot.Fault

namespace HostSnapshot

namespace Json

mutual

/-- A value as it is shown: numbers that are not finite are null. -/
def shown : Json → Json
  | float x => if x.isNaN || x.isInf then null else float x
  | arr vs => arr (shownItems vs)
  | obj ms => obj (shownMembers ms)
  | v => v

def shownItems : List Json → List Json
  | [] => []
  | v :: vs => shown v :: shownItems vs

def shownMembers : List (String × Json) → List (String × Json)
  | [] => []
  | (k, v) :: ms => (k, shown v) :: shownMembers ms

end

mutual

/-- How many values there are on the longest way into a value, that value among them. -/
def height : Json → Nat
  | arr vs => itemHeight vs + 1
  | obj ms => memberHeight ms + 1
  | _ => 1

def itemHeight : List Json → Nat
  | [] => 0
  | v :: vs => max (height v) (itemHeight vs)

def memberHeight : List (String × Json) → Nat
  | [] => 0
  | (_, v) :: ms => max (height v) (memberHeight ms)

end

end Json

def PartitionState.mapping (s : PartitionState) : Json.Members :=
  [("mounted", .bool s.isMounted),
   ("name", .str s.facts.name),
   ("label", .str s.facts.label),
   ("filesystemlabel", .str s.facts.filesystemLabel),
   ("mount_point", .str s.facts.mountPoint),
   ("size_bytes", .int s.facts.size),
   ("type", .str s.facts.type),
   ("read_only", .bool s.facts.readOnly),
   ("found", .bool s.isFound),
   ("uuid", .str s.facts.uuid)]

def Distribution.mapping (d : Distribution) : Json.Members :=
  [("flavor", .str d.flavor), ("version", .str d.version)]

namespace Snapshot

def mapping (s : Snapshot) : Json.Members :=
  [("uuid", .str s.uuid),
   ("persistent", .obj s.persistent.mapping),
   ("recovery", .obj s.recovery.mapping),
   ("oem", .obj s.oem.mapping),
   ("state", .obj s.state.mapping),
   ("boot", .str s.boot.name),
   ("system", .obj (Json.shownMembers s.system)),
   ("kairos", .obj s.distribution.mapping)]

/-- The most values on a way into the facts about the system. -/
def maxHeight : Nat := 255

def isShallow (s : Snapshot) : Bool := Json.memberHeight s.system ≤ maxHeight

/-- A snapshot as a JSON object, unless the facts about the system nest too deeply. -/
def dump (s : Snapshot) : Except Fault Json.Members :=
  if s.isShallow then .ok s.mapping
  else .error (.outside ⟨"ValueError", .other, "Circular reference detected (depth exceeded)"⟩)

end Snapshot

end HostSnapshot
