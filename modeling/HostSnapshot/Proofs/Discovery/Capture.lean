import HostSnapshot.Proofs.Discovery.Resolution
import HostSnapshot.Session

namespace HostSnapshot

open Traced

namespace View

theorem isQuiet_boot (v : View) : v.boot.IsQuiet :=
  isQuiet_orDefault _ _ _ _ _

theorem isQuiet_releaseOrNote (v : View) (key what : String) :
    (v.releaseOrNote key what).IsQuiet :=
  isQuiet_orDefault _ _ _ _ _

theorem isQuiet_distribution (v : View) : v.distribution.IsQuiet :=
  (v.isQuiet_releaseOrNote _ _).bind fun _ =>
    (v.isQuiet_releaseOrNote _ _).bind fun _ => isQuiet_pure _

theorem isQuiet_systemFacts (v : View) : v.systemFacts.IsQuiet :=
  IsQuiet.bind (isQuiet_orDefault _ _ _ _ _) fun _ => isQuiet_pure _

theorem isQuiet_memoryFacts (v : View) : v.memoryFacts.IsQuiet := by
  unfold memoryFacts
  split
  · exact (isQuiet_pure _).bind fun _ => isQuiet_pure _
  · split
    · exact (isQuiet_debug _ _).bind fun _ => (isQuiet_pure _).bind fun _ => isQuiet_pure _
    · exact (isQuiet_throw _).bind fun _ => isQuiet_pure _

theorem isQuiet_facts (v : View) (live : Bool) : (v.facts live).IsQuiet := by
  refine IsQuiet.bind (isQuiet_ofExcept _) fun _ => ?_
  refine IsQuiet.bind v.isQuiet_systemFacts fun _ => ?_
  refine IsQuiet.bind (isQuiet_ofExcept _) fun _ => ?_
  refine IsQuiet.bind (isQuiet_ofExcept _) fun _ => ?_
  exact v.isQuiet_memoryFacts.bind fun _ => isQuiet_pure _

theorem isQuiet_disksOr (v : View) (learnt : Snapshot) : (v.disksOr learnt).IsQuiet :=
  v.isQuiet_disks

/-- What was learnt before only matters to a fault. -/
theorem disksOr_eq_ok_iff {v : View} {learnt : Snapshot} {disks : List Disk} :
    (v.disksOr learnt).outcome = .ok disks ↔ v.disks.outcome = .ok disks := by
  change v.disks.outcome.mapError (keeping learnt) = .ok disks ↔ _
  cases v.disks.outcome with
  | error e => exact ⟨fun h => (by cases h), fun h => (by cases h)⟩
  | ok ds => rfl

theorem snapshot_of_parts {v : View} {boot : Boot} {uuid : String} {system : Json.Members}
    {distribution : Distribution} {disks : List Disk} (partitions : Role → PartitionState)
    (hboot : v.boot.outcome = .ok boot) (huuid : v.identity v.isLive = .ok uuid)
    (hsystem : (v.facts v.isLive).outcome = .ok system)
    (hdistribution : v.distribution.outcome = .ok distribution)
    (hdisks : v.disks.outcome = .ok disks)
    (hpartitions : ∀ role, (v.resolve role disks).outcome = .ok (partitions role)) :
    v.snapshot.outcome = .ok (assemble boot uuid system distribution partitions) := by
  have hlisted (learnt : Snapshot) : (v.disksOr learnt).outcome = .ok disks :=
    disksOr_eq_ok_iff.mpr hdisks
  unfold snapshot
  rw [outcome_bind_of_ok hboot, outcome_bind_of_ok huuid, outcome_bind_of_ok hsystem,
    outcome_bind_of_ok hdistribution, outcome_bind_of_ok (hlisted _),
    outcome_bind_of_ok (hpartitions .persistent), outcome_bind_of_ok (hpartitions .recovery),
    outcome_bind_of_ok (hpartitions .oem), outcome_bind_of_ok (hpartitions .state)]
  rfl

/-- A snapshot has the partitions of its roles, and runs the commands for each of them in turn. -/
theorem snapshot_eq_ok {v : View} {s : Snapshot} (h : v.snapshot.outcome = .ok s) :
    ∃ disks, v.disks.outcome = .ok disks ∧
      (∀ role, (v.resolve role disks).outcome = .ok (s.partition role)) ∧
      v.snapshot.calls = Role.all.flatMap fun role => (v.resolve role disks).calls := by
  unfold snapshot at h ⊢
  -- All that comes before the roles is quiet.
  obtain ⟨boot, -, h, hboot⟩ := v.isQuiet_boot.split_bind h
  obtain ⟨uuid, -, h, huuid⟩ := (isQuiet_ofExcept _).split_bind h
  obtain ⟨system, -, h, hsystem⟩ := (v.isQuiet_facts _).split_bind h
  obtain ⟨distribution, -, h, hdistribution⟩ := v.isQuiet_distribution.split_bind h
  obtain ⟨disks, hdisks, h, hquiet⟩ := (v.isQuiet_disksOr _).split_bind h
  obtain ⟨persistent, hpersistent, h, ranPersistent⟩ := split_bind h
  obtain ⟨recovery, hrecovery, h, ranRecovery⟩ := split_bind h
  obtain ⟨oem, hoem, h, ranOem⟩ := split_bind h
  obtain ⟨state, hstate, h, ranState⟩ := split_bind h
  obtain ⟨_, -, h, hlast⟩ := (isQuiet_debug _ _).split_bind h
  cases h
  refine ⟨disks, disksOr_eq_ok_iff.mp hdisks, ?_, ?_⟩
  · intro role
    cases role <;> assumption
  · rw [hboot, huuid, hsystem, hdistribution, hquiet, ranPersistent, ranRecovery, ranOem,
      ranState, hlast]
    simp [Role.all]

end View

/-- Two disks, with a partition for the state and two that have the label of one other role. -/
def Device.samples : List Device :=
  [⟨"sda", .disk, none, [], none⟩,
   ⟨"sda1", .partition, some "sda", [("ID_FS_LABEL", "COS_OEM")], some "2048"⟩,
   ⟨"sda2", .partition, some "sda", [("ID_FS_LABEL", "COS_STATE")], some "4096"⟩,
   ⟨"sdb", .disk, none, [], none⟩,
   ⟨"sdb1", .partition, some "sdb", [("ID_FS_LABEL", "COS_OEM")], some "2048"⟩]

/-- A host on which only the state is mounted and no tool can be found. -/
def View.sample : View where
  host := {
    files := ⟨.dir [("proc", .dir [("mounts",
      .file ("/dev/sda2 /run/initramfs ext4 ro\n".toList.map (·.toNat.toUInt8)))])], []⟩
    devices := .ok Device.samples
    tool := fun _ => .error ⟨"FileNotFoundError", .missingFile, "No such file or directory"⟩
    machine := ⟨"", "", "", "", "", "", none, none, .ok 0⟩
    environment := ⟨some "sample", none⟩ }
  root := .slash
  files := .slash
  directory := "/"

def Mounts.sample : Mounts := [("/dev/sda2", ⟨"/run/initramfs", true⟩)]

def Disk.samples : List Disk :=
  [⟨"sda", [⟨"sda1", "", "", 1048576, "", "COS_OEM", "", false⟩,
     ⟨"sda2", "", "", 2097152, "", "COS_STATE", "/run/initramfs", true⟩]⟩,
   ⟨"sdb", [⟨"sdb1", "", "", 1048576, "", "COS_OEM", "", false⟩]⟩]

theorem View.mounts_sample : View.sample.mounts.outcome = .ok Mounts.sample := rfl

theorem View.disks_sample : View.sample.disks.outcome = .ok Disk.samples := by
  have hlisted : Disk.listed Device.samples Mounts.sample = Disk.samples := by
    unfold Disk.listed Disk.names Disk.devicesOn Disk.byName
    -- Sorting does not compute, but these devices are in order.
    rw [List.mergeSort_of_pairwise (by decide), List.mergeSort_of_pairwise (by decide)]
    decide
  have hdevices : View.sample.devices = .ok Device.samples := rfl
  rw [View.disks_of_devices hdevices, outcome_bind_of_ok View.mounts_sample,
    Disk.outcome_ofDevices, hlisted]

theorem View.snapshot_sample : ∃ s, View.sample.snapshot.outcome = .ok s := by
  refine ⟨_, View.snapshot_of_parts (fun
    | .oem => .found ⟨"/dev/sdb1", "", "COS_OEM", "", 1048576, "", false, ""⟩
    | .state => .found ⟨"/dev/sda2", "", "COS_STATE", "/run/initramfs", 2097152, "", true, ""⟩
    | _ => .absent) rfl rfl rfl rfl View.disks_sample ?_⟩
  intro role
  cases role <;> rfl

end HostSnapshot
