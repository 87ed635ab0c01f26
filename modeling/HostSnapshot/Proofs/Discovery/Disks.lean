import HostSnapshot.Disk
import HostSnapshot.Proofs.Traced

namespace HostSnapshot

open Traced

namespace Device

def asPartition (d : Device) (mounts : Mounts) : Partition :=
  let mount := (mounts.lookup (deviceFile d.name)).getD ⟨"", false⟩
  { name := d.name
    type := d.property "ID_FS_TYPE"
    uuid := d.property "ID_PART_ENTRY_UUID"
    size := d.bytes.toOption.getD 0
    label := d.property "ID_PART_ENTRY_NAME"
    filesystemLabel := d.property "ID_FS_LABEL"
    mountPoint := mount.point
    readOnly := mount.readOnly }

theorem asPartition_name (d : Device) (mounts : Mounts) :
    (d.asPartition mounts).name = d.name := rfl

theorem outcome_knownBytes (d : Device) :
    d.knownBytes.outcome = .ok (d.bytes.toOption.getD 0) := by
  unfold knownBytes
  cases d.bytes with
  | ok n => rfl
  | error e => rfl

theorem isQuiet_knownBytes (d : Device) : d.knownBytes.IsQuiet := by
  unfold knownBytes
  cases d.bytes with
  | ok n => exact isQuiet_pure n
  | error e => exact (isQuiet_debug _ _).bind fun _ => isQuiet_pure 0

theorem outcome_partition (d : Device) (mounts : Mounts) :
    (d.partition mounts).outcome = .ok (d.asPartition mounts) := by
  unfold partition
  rw [outcome_bind_of_ok d.outcome_knownBytes]
  rfl

theorem isQuiet_partition (d : Device) (mounts : Mounts) : (d.partition mounts).IsQuiet :=
  d.isQuiet_knownBytes.bind fun _ => isQuiet_pure _

end Device

namespace Disk

theorem isQuiet_skip (d : Device) : (placed?.skip d).IsQuiet :=
  (isQuiet_debug _ _).bind fun _ => isQuiet_pure none

/-- Where a device is placed: with its parent, if that is a known disk. -/
def place? (known : List String) (mounts : Mounts) (d : Device) : Option (String × Partition) :=
  (d.parent.filter known.contains).map fun parent => (parent, d.asPartition mounts)

theorem outcome_placed? (known : List String) (mounts : Mounts) (d : Device) :
    (placed? known mounts d).outcome = .ok (place? known mounts d) := by
  unfold placed? place?
  cases d.parent with
  | none => rfl
  | some parent =>
    by_cases hp : known.contains parent = true
    · simp only [if_pos hp, Option.filter_some_pos hp]
      rw [outcome_bind_of_ok (d.outcome_partition mounts)]
      rfl
    · simp only [if_neg hp, Option.filter_some_neg (Bool.not_eq_true _ ▸ hp)]
      rfl

theorem isQuiet_placed? (known : List String) (mounts : Mounts) (d : Device) :
    (placed? known mounts d).IsQuiet := by
  unfold placed?
  cases d.parent with
  | none => exact isQuiet_skip d
  | some parent =>
    by_cases hp : known.contains parent = true
    · simp only [if_pos hp]
      exact (d.isQuiet_partition mounts).bind fun _ => isQuiet_pure _
    · simp only [if_neg hp]
      exact isQuiet_skip d

def devicesOn (devices : List Device) (disk : String) : List Device :=
  (byName (devices.filter (·.type = .partition))).filter (·.parent = some disk)

/-- What is placed on a known disk are the devices that have it as their parent. -/
theorem filter_place {known : List String} {disk : String} (hd : disk ∈ known) (mounts : Mounts)
    (ds : List Device) :
    (((ds.map (place? known mounts)).filterMap id).filter (·.1 = disk)).map (·.2) =
      (ds.filter (·.parent = some disk)).map (·.asPartition mounts) := by
  have hknown : known.contains disk = true := List.contains_iff_mem.mpr hd
  induction ds with
  | nil => rfl
  | cons d ds ih =>
    rw [List.map_cons, List.filterMap_cons, List.filter_cons, place?]
    cases hp : d.parent with
    | none => simpa using ih
    | some parent =>
      by_cases heq : parent = disk
      · subst heq
        simpa [Option.filter_some_pos hknown] using ih
      · by_cases hk : known.contains parent = true
        · simpa [Option.filter_some_pos hk, heq] using ih
        · simpa [Option.filter_some_neg (Bool.not_eq_true _ ▸ hk), heq] using ih

def listed (devices : List Device) (mounts : Mounts) : List Disk :=
  (names devices).map fun name => ⟨name, (devicesOn devices name).map (·.asPartition mounts)⟩

theorem outcome_ofDevices (devices : List Device) (mounts : Mounts) :
    (ofDevices devices mounts).outcome = .ok (listed devices mounts) := by
  unfold ofDevices
  rw [outcome_bind_of_ok (outcome_mapM (outcome_placed? (names devices) mounts) _),
    outcome_bind_of_ok (outcome_forM (fun _ => rfl) _), outcome_pure, Except.ok.injEq]
  apply List.map_congr_left
  intro name hname
  rw [filter_place hname, devicesOn]

theorem isQuiet_ofDevices (devices : List Device) (mounts : Mounts) :
    (ofDevices devices mounts).IsQuiet :=
  (IsQuiet.mapM (isQuiet_placed? _ _) _).bind fun _ =>
    (IsQuiet.forM (fun _ => isQuiet_log _ _ _) _).bind fun _ => isQuiet_pure _

end Disk

namespace View

theorem isQuiet_mounts (v : View) : v.mounts.IsQuiet :=
  isQuiet_orDefault _ _ _ _ _

theorem devices_of_ok {v : View} {ds : List Device} (h : v.host.devices = .ok ds) :
    v.devices = .ok ds := by
  unfold devices
  rw [h]

theorem disks_of_devices {v : View} {ds : List Device} (h : v.devices = .ok ds) :
    v.disks = v.mounts >>= Disk.ofDevices ds := by
  unfold disks
  rw [h]
  rfl

theorem isQuiet_disks (v : View) : v.disks.IsQuiet :=
  (isQuiet_ofExcept _).bind fun _ => v.isQuiet_mounts.bind fun _ => Disk.isQuiet_ofDevices _ _

theorem disks_eq_ok {v : View} {disks : List Disk} (h : v.disks.outcome = .ok disks) :
    ∃ ds mounts, v.devices = .ok ds ∧ v.mounts.outcome = .ok mounts ∧
      disks = Disk.listed ds mounts := by
  obtain ⟨ds, hds, h⟩ := outcome_bind_eq_ok.mp h
  obtain ⟨mounts, hmounts, h⟩ := outcome_bind_eq_ok.mp h
  rw [Disk.outcome_ofDevices, Except.ok.injEq] at h
  exact ⟨ds, mounts, hds, hmounts, h.symm⟩

end View

end HostSnapshot
