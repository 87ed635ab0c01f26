import HostSnapshot.Proofs.Discovery.Disks
import HostSnapshot.Resolution

namespace HostSnapshot

open Traced

namespace Disk

theorem mem_allPartitions_listed {devices : List Device} {mounts : Mounts} {p : Partition}
    (h : p ∈ allPartitions (listed devices mounts)) : ∃ d : Device, p = d.asPartition mounts := by
  simp only [allPartitions, listed, List.flatMap_map, List.mem_flatMap, List.mem_map] at h
  obtain ⟨_, _, d, _, hd⟩ := h
  exact ⟨d, hd.symm⟩

theorem outcome_noteDisplaced (label : String) (ps : List Partition) :
    (noteDisplaced label ps).outcome = .ok () := by
  induction ps with
  | nil => rfl
  | cons p ps ih =>
    cases ps with
    | nil => rfl
    | cons q ps =>
      rw [noteDisplaced, outcome_bind_of_ok (outcome_debug _ _)]
      exact ih

theorem isQuiet_noteDisplaced (label : String) (ps : List Partition) :
    (noteDisplaced label ps).IsQuiet := by
  induction ps with
  | nil => exact isQuiet_pure ()
  | cons p ps ih =>
    cases ps with
    | nil => exact isQuiet_pure ()
    | cons q ps => exact (isQuiet_debug _ _).bind fun _ => ih

theorem outcome_withLabel (label : String) (disks : List Disk) :
    (withLabel label disks).outcome = .ok (labelled label disks).getLast? := by
  unfold withLabel
  rw [outcome_bind_of_ok (outcome_noteDisplaced label _)]
  rfl

theorem isQuiet_withLabel (label : String) (disks : List Disk) :
    (withLabel label disks).IsQuiet :=
  (isQuiet_noteDisplaced label _).bind fun _ => isQuiet_pure _

end Disk

theorem MountOptions.isQuiet_readOnly (options : String) (default : Bool) :
    (MountOptions.readOnly options default).IsQuiet := by
  unfold MountOptions.readOnly
  dsimp only
  split
  · exact (isQuiet_log _ _ _).bind fun _ => isQuiet_pure _
  · exact isQuiet_pure _

/-- The one thing that a tool tells of. -/
def ToolResult.only? {α : Type} (read? : String → Option (List α)) (r : ToolResult) : Option α :=
  if r.succeeded then
    match read? r.output with
    | some [thing] => some thing
    | _ => none
  else none

theorem ToolResult.only?_eq_some_iff {α : Type} {read? : String → Option (List α)} {r : ToolResult}
    {thing : α} : r.only? read? = some thing ↔ r.status = 0 ∧ read? r.output = some [thing] := by
  have hstatus : r.succeeded = true ↔ r.status = 0 := by simp [ToolResult.succeeded]
  rw [← hstatus]
  unfold only?
  constructor
  · intro h
    split at h
    · next hsucceeded =>
      split at h
      · next hread =>
        cases h
        exact ⟨hsucceeded, hread⟩
      · cases h
    · cases h
  · rintro ⟨hsucceeded, hread⟩
    rw [if_pos hsucceeded, hread]

namespace View

theorem calls_run (v : View) (tool : String) (arguments : List String) :
    (v.run tool arguments).calls = [(tool :: arguments, v.directory)] := by
  unfold run
  rw [calls_bind_of_ok (outcome_debug _ _), calls_bind_of_isQuiet]
  · rfl
  · intro _
    split
    · split
      · exact (isQuiet_debug _ _).bind fun _ => isQuiet_pure _
      · exact isQuiet_pure _
    · split
      · exact (isQuiet_debug _ _).bind fun _ => isQuiet_pure _
      · exact isQuiet_throw _

theorem outcome_run_of_ok {v : View} {tool : String} {arguments : List String} {r : ToolResult}
    (h : v.host.tool (tool :: arguments) = .ok r) : (v.run tool arguments).outcome = .ok r := by
  unfold run
  rw [outcome_bind_of_ok (outcome_debug _ _), outcome_bind_of_ok rfl, h]
  dsimp only
  split
  · rw [outcome_bind_of_ok (outcome_debug _ _)]
    rfl
  · rfl

/-- A tool that gives an answer, whatever it is, is no failure. -/
theorem outcome_ask {α : Type} {v : View} {tool label : String} {arguments : List String}
    {things : String} {read? : String → Option (List α)} {r : ToolResult}
    (h : (v.run tool arguments).outcome = .ok r) :
    (v.ask tool label arguments things read?).outcome = .ok (r.only? read?) := by
  unfold ask ToolResult.only?
  rw [outcome_bind_of_ok h]
  cases r.succeeded with
  | false => rfl
  | true =>
    rw [if_neg (by decide), outcome_bind_of_ok (outcome_log _ _ _), if_pos rfl]
    match read? r.output with
    | none => rfl
    | some [] => rfl
    | some [thing] => rfl
    | some (_ :: _ :: _) => rfl

theorem outcome_ask_of_failed {α : Type} {v : View} {tool label : String} {arguments : List String}
    {things : String} {read? : String → Option (List α)} {r : ToolResult}
    (h : v.host.tool (tool :: arguments) = .ok r) (hr : r.status ≠ 0) :
    (v.ask tool label arguments things read?).outcome = .ok none := by
  have hnone : r.only? read? = none := by
    rw [Option.eq_none_iff_forall_ne_some]
    intro thing hthing
    exact hr (ToolResult.only?_eq_some_iff.mp hthing).1
  rw [outcome_ask (outcome_run_of_ok h), hnone]

theorem outcome_ask_of_one {α : Type} {v : View} {tool label : String} {arguments : List String}
    {things : String} {read? : String → Option (List α)} {r : ToolResult} {thing : α}
    (h : v.host.tool (tool :: arguments) = .ok r) (hr : r.status = 0)
    (hread : read? r.output = some [thing]) :
    (v.ask tool label arguments things read?).outcome = .ok (some thing) := by
  rw [outcome_ask (outcome_run_of_ok h), ToolResult.only?_eq_some_iff.mpr ⟨hr, hread⟩]

theorem calls_ask {α : Type} (v : View) (tool label : String) (arguments : List String)
    (things : String) (read? : String → Option (List α)) :
    (v.ask tool label arguments things read?).calls = [(tool :: arguments, v.directory)] := by
  unfold ask
  rw [calls_bind_of_isQuiet, calls_run]
  intro r
  have hnote {β : Type} (message : String) (b : β) :
      (debug "partitions" message >>= fun _ => pure b).IsQuiet :=
    (isQuiet_debug _ _).bind fun _ => isQuiet_pure b
  split
  · exact hnote _ none
  · apply (isQuiet_log _ _ _).bind
    intro _
    split
    · exact hnote _ none
    · exact isQuiet_pure _
    · exact hnote _ none

theorem calls_findmnt (v : View) (label : String) :
    (v.findmnt label).calls = [("findmnt" :: findmntArguments label, v.directory)] :=
  v.calls_ask _ _ _ _ _

theorem calls_lsblk (v : View) (label : String) :
    (v.lsblk label).calls = [("lsblk" :: lsblkArguments label, v.directory)] :=
  v.calls_ask _ _ _ _ _

/-- The state of a partition in the device list, given what `findmnt` adds. -/
def stateWith (p : Partition) : Option FoundMount → Traced PartitionState
  | none => Traced.ofExcept (p.state p.mountPoint p.readOnly)
  | some m => do
    let readOnly ← MountOptions.readOnly m.options p.readOnly
    Traced.ofExcept (p.state m.target readOnly)

theorem isQuiet_stateWith (p : Partition) (mount : Option FoundMount) :
    (stateWith p mount).IsQuiet := by
  cases mount with
  | none => exact isQuiet_ofExcept _
  | some m => exact (MountOptions.isQuiet_readOnly _ _).bind fun _ => isQuiet_ofExcept _

theorem stateWith_eq_ok {p : Partition} {mount : Option FoundMount} {state : PartitionState}
    (h : (stateWith p mount).outcome = .ok state) :
    ∃ found, state = .found found ∧ found.name = deviceFile p.name ∧
      found.filesystemLabel = p.filesystemLabel := by
  have hstate {point : String} {readOnly : Bool} (h : p.state point readOnly = .ok state) :
      ∃ found, state = .found found ∧ found.name = deviceFile p.name ∧
        found.filesystemLabel = p.filesystemLabel := by
    unfold Partition.state at h
    split at h
    · cases h
    · exact ⟨_, (Except.ok.inj h).symm, rfl, rfl⟩
  cases mount with
  | none => exact hstate h
  | some m =>
    obtain ⟨readOnly, -, h⟩ := outcome_bind_eq_ok.mp h
    exact hstate h

theorem partitionState_eq (v : View) (p : Partition) : v.partitionState p =
    if p.wantsMount then v.findmnt p.filesystemLabel >>= stateWith p else stateWith p none := by
  unfold partitionState
  split
  · rfl
  · rw [pure_bind]
    rfl

theorem calls_partitionState (v : View) (p : Partition) : (v.partitionState p).calls =
    if p.wantsMount then [("findmnt" :: findmntArguments p.filesystemLabel, v.directory)]
    else [] := by
  rw [partitionState_eq]
  by_cases hp : p.wantsMount = true
  · rw [if_pos hp, if_pos hp, calls_bind_of_isQuiet (isQuiet_stateWith p), calls_findmnt]
  · rw [if_neg hp, if_neg hp]
    exact isQuiet_stateWith p none

theorem partitionState_eq_ok {v : View} {p : Partition} {state : PartitionState}
    (h : (v.partitionState p).outcome = .ok state) :
    ∃ found, state = .found found ∧ found.name = deviceFile p.name ∧
      found.filesystemLabel = p.filesystemLabel := by
  rw [partitionState_eq] at h
  by_cases hp : p.wantsMount = true
  · rw [if_pos hp] at h
    obtain ⟨mount, -, h⟩ := outcome_bind_eq_ok.mp h
    exact stateWith_eq_ok h
  · rw [if_neg hp] at h
    exact stateWith_eq_ok h

theorem calls_volumeState (v : View) (label : String) :
    (v.volumeState label).calls = [("lsblk" :: lsblkArguments label, v.directory)] := by
  unfold volumeState
  rw [calls_bind_of_isQuiet, calls_lsblk]
  intro d
  cases d <;> exact isQuiet_pure _

/-- A role takes one command at most, whether or not it comes to a result. -/
theorem calls_resolve (v : View) (role : Role) (disks : List Disk) :
    (v.resolve role disks).calls = match (Disk.labelled role.label disks).getLast? with
      | some p => (v.partitionState p).calls
      | none => if role.mayBeVolume then (v.volumeState role.label).calls else [] := by
  unfold resolve
  rw [calls_bind_of_ok (Disk.outcome_withLabel role.label disks),
    Disk.isQuiet_withLabel role.label disks, List.nil_append]
  cases (Disk.labelled role.label disks).getLast? with
  | some p => exact calls_bind_of_isQuiet fun _ => (isQuiet_debug _ _).bind fun _ => isQuiet_pure _
  | none =>
    by_cases hv : role.mayBeVolume = true
    · simp only [if_pos hv]
      apply calls_bind_of_isQuiet
      intro state
      split
      · exact (isQuiet_debug _ _).bind fun _ => isQuiet_pure _
      · exact isQuiet_pure _
    · simp only [if_neg hv]
      exact (isQuiet_debug _ _).bind fun _ => isQuiet_pure _

theorem resolve_of_some {v : View} {role : Role} {disks : List Disk} {p : Partition}
    (hp : (Disk.labelled role.label disks).getLast? = some p) :
    (v.resolve role disks).outcome = (v.partitionState p).outcome := by
  unfold resolve
  rw [outcome_bind_of_ok (Disk.outcome_withLabel role.label disks), hp]
  dsimp only
  cases hs : (v.partitionState p).outcome with
  | error e => rw [bind_of_error hs]
  | ok state =>
    rw [outcome_bind_of_ok hs]
    rfl

theorem resolve_of_none {v : View} {role : Role} {disks : List Disk}
    (hp : (Disk.labelled role.label disks).getLast? = none) (hv : role.mayBeVolume = false) :
    (v.resolve role disks).outcome = .ok .absent := by
  unfold resolve
  rw [outcome_bind_of_ok (Disk.outcome_withLabel role.label disks), hp]
  simp only [hv]
  rfl

theorem resolve_of_volume {v : View} {role : Role} {disks : List Disk}
    (hp : (Disk.labelled role.label disks).getLast? = none) (hv : role.mayBeVolume = true) :
    (v.resolve role disks).outcome = (v.volumeState role.label).outcome := by
  unfold resolve
  rw [outcome_bind_of_ok (Disk.outcome_withLabel role.label disks), hp]
  simp only [if_pos hv]
  cases hs : (v.volumeState role.label).outcome with
  | error e => rw [bind_of_error hs]
  | ok state =>
    rw [outcome_bind_of_ok hs]
    split <;> rfl

end View

end HostSnapshot
