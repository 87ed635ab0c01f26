import HostSnapshot.Proofs.Discovery.Order
import HostSnapshot.Proofs.Mounts.First

namespace HostSnapshot

open Traced

/-- Groups by distinct keys, put together again, are what has one of the keys. -/
theorem perm_flatMap_filter {α κ : Type} [DecidableEq κ] (f : α → κ) {keys : List κ}
    (h : keys.Nodup) (l : List α) :
    (keys.flatMap fun k => l.filter (f · = k)).Perm (l.filter (f · ∈ keys)) := by
  induction keys with
  | nil => simp
  | cons k keys ih =>
    rw [List.nodup_cons] at h
    -- The elements with the first key come apart from the others.
    have hsplit := List.filter_append_perm (f · = k) (l.filter (f · ∈ k :: keys))
    have hfirst : (l.filter (f · ∈ k :: keys)).filter (f · = k) = l.filter (f · = k) := by
      rw [List.filter_filter]
      apply List.filter_congr
      intro a _
      by_cases ha : f a = k <;> simp [ha]
    have hrest : (l.filter (f · ∈ k :: keys)).filter (fun a => !decide (f a = k)) =
        l.filter (f · ∈ keys) := by
      rw [List.filter_filter]
      apply List.filter_congr
      intro a _
      by_cases ha : f a = k
      · simp [ha, h.1]
      · simp [ha]
    rw [hfirst, hrest] at hsplit
    rw [List.flatMap_cons]
    exact (List.Perm.append_left _ (ih h.2)).trans hsplit

/-- What is shown of a partition device, given the lines of the mount table. -/
structure Device.IsShownAs (lines : List (List Char)) (d : Device) (p : Partition) : Prop where
  name : p.name = d.name
  type : p.type = d.property "ID_FS_TYPE"
  uuid : p.uuid = d.property "ID_PART_ENTRY_UUID"
  size : d.bytes = .ok p.size ∨ p.size = 0 ∧ ∃ e, d.bytes = .error e
  label : p.label = d.property "ID_PART_ENTRY_NAME"
  filesystemLabel : p.filesystemLabel = d.property "ID_FS_LABEL"
  mount : Mounts.TellsFirst (deviceFile d.name) ⟨p.mountPoint, p.readOnly⟩ lines

theorem Device.isShownAs_asPartition (d : Device) (table : List Char) :
    d.IsShownAs (Text.lines table) (d.asPartition (Mounts.ofText table)) where
  name := rfl
  type := rfl
  uuid := rfl
  size := by
    unfold asPartition
    cases d.bytes with
    | ok n => exact .inl rfl
    | error e => exact .inr ⟨rfl, e, rfl⟩
  label := rfl
  filesystemLabel := rfl
  mount := Mounts.tellsFirst_ofText (deviceFile d.name) table

namespace Disk

/-- The partitions of some disks, each with the name of its disk. -/
def placements (disks : List Disk) : List (String × Partition) :=
  disks.flatMap fun disk => disk.partitions.map fun p => (disk.name, p)

def devicesBelow (devices : List Device) (names : List String) : List Device :=
  devices.filter fun d => d.type = .partition ∧ d.parent ∈ names.map some

theorem mem_devicesBelow {devices : List Device} {names : List String} {d : Device} :
    d ∈ devicesBelow devices names ↔
      d ∈ devices ∧ d.type = .partition ∧ ∃ name ∈ names, d.parent = some name := by
  simp only [devicesBelow, List.mem_filter, decide_eq_true_eq, List.mem_map,
    eq_comm (b := d.parent)]

theorem map_name_listed (devices : List Device) (mounts : Mounts) :
    (listed devices mounts).map (·.name) = names devices := by
  rw [listed, List.map_map]
  exact List.map_id _

theorem nodup_names (devices : List Device) : (names devices).Nodup :=
  (pairwise_names devices).imp fun h => Std.ne_of_lt h

theorem perm_flatMap_devicesOn (devices : List Device) {names : List String}
    (h : names.Nodup) : (names.flatMap (devicesOn devices)).Perm (devicesBelow devices names) := by
  have hkeys : (names.map some).Nodup := h.map fun _ _ => Option.some.inj
  have hregroup := perm_flatMap_filter (fun d : Device => d.parent) hkeys
    (byName (devices.filter (·.type = .partition)))
  rw [List.flatMap_map] at hregroup
  refine hregroup.trans ?_
  have hsorted : (byName (devices.filter (·.type = .partition))).Perm
      (devices.filter (·.type = .partition)) := List.mergeSort_perm _ _
  refine (hsorted.filter _).trans ?_
  rw [List.filter_filter, devicesBelow]
  apply List.Perm.of_eq
  apply List.filter_congr
  intro d _
  simp [Bool.and_comm]

def placement (mounts : Mounts) (d : Device) : String × Partition :=
  (d.parent.getD "", d.asPartition mounts)

theorem placements_listed (devices : List Device) (mounts : Mounts) :
    (placements (listed devices mounts)).Perm
      ((devicesBelow devices (names devices)).map (placement mounts)) := by
  have hplaced : placements (listed devices mounts) =
      ((names devices).flatMap (devicesOn devices)).map (placement mounts) := by
    unfold placements listed
    rw [List.flatMap_map, List.map_flatMap]
    congr 1
    funext name
    rw [List.map_map]
    apply List.map_congr_left
    intro d hd
    have hparent := (mem_devicesOn.mp hd).2.2
    simp [placement, hparent]
  rw [hplaced]
  exact (perm_flatMap_devicesOn devices (nodup_names devices)).map _

theorem pairwise_partitions_listed {devices : List Device} {mounts : Mounts} {disk : Disk}
    (h : disk ∈ listed devices mounts) : (disk.partitions.map (·.name)).Pairwise (· ≤ ·) := by
  obtain ⟨name, -, rfl⟩ := List.mem_map.mp h
  have hsorted := (pairwise_byName (devices.filter (·.type = .partition))).filter
    (·.parent = some name)
  rw [List.map_map]
  exact List.pairwise_map.mpr hsorted

end Disk

namespace View

theorem outcome_mounts_of_readIfThere {v : View} {table : Option (List Char)}
    (h : v.readIfThere mountsPath = .ok table) :
    v.mounts.outcome = .ok (Mounts.ofText (table.getD [])) := by
  unfold readIfThere at h
  unfold mounts
  cases hread : v.readText mountsPath with
  | ok s =>
    rw [hread] at h
    cases h
    rfl
  | error e =>
    rw [hread] at h
    dsimp only at h
    split at h
    · next he =>
      cases h
      exact outcome_orDefault_of_isForgiven rfl he
    · cases h

/-- Whatever devices there are and whatever is mounted, the disks come out in strict order, one for
each name of a disk device. The partition devices on one of them come out once each, on that disk,
in the order of their names, each with the first mount that the table tells of. -/
theorem disks_regrouped {v : View} {ds : List Device} {table : Option (List Char)}
    (hds : v.host.devices = .ok ds) (htable : v.readIfThere mountsPath = .ok table) :
    ∃ disks, v.disks.outcome = .ok disks ∧
      (disks.map (·.name)).Pairwise (· < ·) ∧
      (∀ name, name ∈ disks.map (·.name) ↔ ∃ d ∈ ds, d.type = .disk ∧ d.name = name) ∧
      (∃ shown, (Disk.placements disks).Perm shown ∧
        List.Forall₂ (fun (d : Device) (place : String × Partition) =>
          d.parent = some place.1 ∧ d.IsShownAs (Text.lines (table.getD [])) place.2)
          (Disk.devicesBelow ds (disks.map (·.name))) shown) ∧
      ∀ disk ∈ disks, (disk.partitions.map (·.name)).Pairwise (· ≤ ·) := by
  have hmounts := outcome_mounts_of_readIfThere htable
  refine ⟨Disk.listed ds (Mounts.ofText (table.getD [])), ?_, ?_, ?_, ?_, ?_⟩
  · rw [disks_of_devices (devices_of_ok hds), outcome_bind_of_ok hmounts, Disk.outcome_ofDevices]
  · rw [Disk.map_name_listed]
    exact Disk.pairwise_names ds
  · intro name
    rw [Disk.map_name_listed]
    exact Disk.mem_names
  · refine ⟨_, Disk.placements_listed ds (Mounts.ofText (table.getD [])), ?_⟩
    rw [Disk.map_name_listed, List.forall₂_map_right_iff, List.forall₂_same]
    intro d hd
    obtain ⟨-, -, name, -, hname⟩ := Disk.mem_devicesBelow.mp hd
    refine ⟨?_, d.isShownAs_asPartition (table.getD [])⟩
    rw [Disk.placement, hname]
    rfl
  · exact fun disk => Disk.pairwise_partitions_listed

/-- Devices in no order: a disk that is listed twice, partitions of one name on two disks, and some
that belong to no listed disk. -/
def jumbled : List Device :=
  [⟨"sdb1", .partition, some "sdb", [("ID_FS_LABEL", "COS_OEM")], some "2048"⟩,
   ⟨"sdb", .disk, none, [], none⟩,
   ⟨"sda2", .partition, some "sdb", [], none⟩,
   ⟨"sdc1", .partition, some "sdc", [], some "2048"⟩,
   ⟨"sda", .disk, none, [], none⟩,
   ⟨"dm-0", .other, some "sda", [], none⟩,
   ⟨"sda2", .partition, some "sda", [("ID_FS_LABEL", "COS_STATE")], some "4096"⟩,
   ⟨"sda", .disk, none, [], none⟩,
   ⟨"md1", .partition, none, [], none⟩]

theorem disks_jumbled :
    (sample.withDevices jumbled).host.devices = .ok jumbled ∧
    ∃ table, (sample.withDevices jumbled).readIfThere mountsPath = .ok (some table) ∧
      ∃ disks, (sample.withDevices jumbled).disks.outcome = .ok disks ∧
        disks.map (·.name) = ["sda", "sdb"] ∧ (Disk.placements disks).length = 3 ∧
        ∃ shown, (Disk.placements disks).Perm shown ∧
          List.Forall₂ (fun (d : Device) (place : String × Partition) =>
            d.parent = some place.1 ∧ d.IsShownAs (Text.lines table) place.2)
            (Disk.devicesBelow jumbled ["sda", "sdb"]) shown := by
  have hdevices : (sample.withDevices jumbled).host.devices = .ok jumbled := rfl
  obtain ⟨table, htable⟩ :
      ∃ table, (sample.withDevices jumbled).readIfThere mountsPath = .ok (some table) := ⟨_, rfl⟩
  obtain ⟨disks, hdisks, hsorted, hmem, ⟨shown, hperm, hshown⟩, -⟩ :=
    disks_regrouped hdevices htable
  -- Sorting does not compute, but strict order and the names determine the list.
  have hnames : disks.map (·.name) = ["sda", "sdb"] := by
    have hnodup : (disks.map (·.name)).Nodup := hsorted.imp fun h => Std.ne_of_lt h
    have hsame : (disks.map (·.name)).Perm ["sda", "sdb"] := by
      rw [List.perm_ext_iff_of_nodup hnodup (by decide)]
      intro name
      rw [hmem]
      simp [jumbled, eq_comm, or_comm]
    exact hsame.eq_of_pairwise (fun _ _ _ _ hab hba => absurd hba (String.lt_asymm hab)) hsorted
      (by decide)
  rw [hnames] at hshown
  have hlength : (Disk.placements disks).length = 3 := by
    rw [hperm.length_eq, ← hshown.length_eq]
    decide
  exact ⟨hdevices, table, htable, disks, hdisks, hnames, hlength, shown, hperm, hshown⟩

end View

end HostSnapshot
