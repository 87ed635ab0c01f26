import HostSnapshot.Proofs.Discovery.Faults
import HostSnapshot.Proofs.Discovery.Regrouping
import HostSnapshot.Proofs.Text.Numeral

namespace HostSnapshot

open Traced

/-- What a size attribute comes to in bytes. It counts sectors if it is a number, and nothing
otherwise. -/
inductive TellsBytes : Option String → Int → Prop
  | sectors {text : String} {n : Int} (h : Text.Integer.Writes text n) :
      TellsBytes (some text) (512 * n)
  | missing : TellsBytes none 0
  | unusable {text : String} (h : ∀ n, ¬ Text.Integer.Writes text n) : TellsBytes (some text) 0

def IsNegativeSize (size : Option String) : Prop :=
  ∃ text n, size = some text ∧ Text.Integer.Writes text n ∧ n < 0

instance (size : Option String) : Decidable (IsNegativeSize size) :=
  decidable_of_iff
    ((size.bind fun text => (Text.Integer.ofText text).toOption).any (· < 0) = true) <| by
    simp only [IsNegativeSize, ← Text.Integer.ofText_eq_ok_iff]
    cases size with
    | none => simp
    | some text => cases hn : Text.Integer.ofText text <;> simp [hn, Except.toOption]

theorem TellsBytes.neg_iff {size : Option String} {n : Int} (h : TellsBytes size n) :
    n < 0 ↔ IsNegativeSize size := by
  constructor
  · intro hneg
    cases h with
    | sectors hm => exact ⟨_, _, rfl, hm, by omega⟩
    | missing => omega
    | unusable _ => omega
  · rintro ⟨text, m, rfl, hm, hneg⟩
    cases h with
    | sectors hn =>
      have heq := hn.unique hm
      omega
    | unusable hnone => exact absurd hm (hnone m)

namespace Device

theorem bytes_eq_ok_iff {d : Device} {n : Int} :
    d.bytes = .ok n ↔ ∃ text m, d.size = some text ∧ Text.Integer.Writes text m ∧ n = 512 * m := by
  simp only [← Text.Integer.ofText_eq_ok_iff]
  unfold bytes
  cases d.size with
  | none => simp
  | some text =>
    cases hn : Text.Integer.ofText text with
    | error cause => simp [hn]
    | ok m => simp [hn, sectorSize, Int.mul_comm, eq_comm]

theorem tellsBytes_asPartition (d : Device) (mounts : Mounts) :
    TellsBytes d.size (d.asPartition mounts).size := by
  unfold asPartition
  cases hb : d.bytes with
  | ok n =>
    obtain ⟨text, m, hsize, hm, rfl⟩ := bytes_eq_ok_iff.mp hb
    rw [hsize]
    exact .sectors hm
  | error e =>
    cases hsize : d.size with
    | none => exact .missing
    | some text =>
      refine .unusable fun m hm => ?_
      rw [bytes_eq_ok_iff.mpr ⟨text, m, hsize, hm, rfl⟩] at hb
      cases hb

theorem asPartition_size_neg_iff (d : Device) (mounts : Mounts) :
    (d.asPartition mounts).size < 0 ↔ IsNegativeSize d.size :=
  (d.tellsBytes_asPartition mounts).neg_iff

end Device

namespace Disk

theorem allPartitions_eq_map_placements (disks : List Disk) :
    allPartitions disks = (placements disks).map (·.2) := by
  simp [allPartitions, placements, List.map_flatMap, Function.comp_def]

/-- The partitions that are listed are those of the devices below the disks, each with its size. -/
theorem allPartitions_listed_perm (devices : List Device) (mounts : Mounts) :
    (allPartitions (listed devices mounts)).Perm
      ((devicesBelow devices (names devices)).map (·.asPartition mounts)) := by
  have h := (placements_listed devices mounts).map (·.2)
  rwa [← allPartitions_eq_map_placements, List.map_map] at h

theorem sizes_listed_nonneg_iff (devices : List Device) (mounts : Mounts) :
    (∀ p ∈ allPartitions (listed devices mounts), 0 ≤ p.size) ↔
      ∀ d ∈ devicesBelow devices (names devices), ¬ IsNegativeSize d.size := by
  simp only [(allPartitions_listed_perm devices mounts).mem_iff, List.forall_mem_map,
    ← Device.asPartition_size_neg_iff _ mounts, Int.not_lt]

end Disk

namespace View

/-- Whatever devices there are and whatever is mounted, the listed partitions have the sizes that
their attributes tell. They all fit a state, so that no role comes to data that is not valid
whatever the tools answer, exactly if no attribute is a negative number. One role is affected
exactly if the last partition with its label has a negative size. -/
theorem disks_fit_iff {v : View} {ds : List Device} {table : Option (List Char)}
    (hds : v.host.devices = .ok ds) (htable : v.readIfThere mountsPath = .ok table) :
    ∃ disks, v.disks.outcome = .ok disks ∧
      (∃ shown, (Disk.allPartitions disks).Perm shown ∧
        List.Forall₂ (fun (d : Device) (p : Partition) =>
          p.name = d.name ∧ TellsBytes d.size p.size)
          (Disk.devicesBelow ds (disks.map (·.name))) shown) ∧
      (((∀ p ∈ Disk.allPartitions disks, 0 ≤ p.size) ∧
          ∀ (w : View) (role : Role) (issues : List Issue),
            (w.resolve role disks).outcome ≠ .error (.invalid issues)) ↔
        ∀ d ∈ Disk.devicesBelow ds (disks.map (·.name)), ¬ IsNegativeSize d.size) ∧
      ∀ role, (∃ (w : View) (issues : List Issue),
          (w.resolve role disks).outcome = .error (.invalid issues)) ↔
        ∃ p, (Disk.labelled role.label disks).getLast? = some p ∧ p.size < 0 := by
  have hmounts := outcome_mounts_of_readIfThere htable
  have hdisks : v.disks.outcome = .ok (Disk.listed ds (Mounts.ofText (table.getD []))) := by
    rw [disks_of_devices (devices_of_ok hds), outcome_bind_of_ok hmounts, Disk.outcome_ofDevices]
  refine ⟨_, hdisks, ?_, ?_, fun role => exists_resolve_eq_invalid_iff role _⟩
  · refine ⟨_, Disk.allPartitions_listed_perm ds _, ?_⟩
    rw [Disk.map_name_listed, List.forall₂_map_right_iff, List.forall₂_same]
    exact fun d _ => ⟨d.asPartition_name _, d.tellsBytes_asPartition _⟩
  · rw [Disk.map_name_listed, ← Disk.sizes_listed_nonneg_iff ds (Mounts.ofText (table.getD []))]
    refine and_iff_left_of_imp fun hsizes w role issues hinvalid => ?_
    obtain ⟨p, hp, hneg⟩ := (exists_resolve_eq_invalid_iff role _).mp ⟨w, issues, hinvalid⟩
    have hsize := hsizes p (List.mem_filter.mp (List.mem_of_getLast? hp)).1
    omega

/-- Sizes that are written in several ways, or not at all. Only the disk has a negative one. -/
def sized : List Device :=
  [⟨"sda", .disk, none, [], some "-8"⟩,
   ⟨"sda1", .partition, some "sda", [("ID_FS_LABEL", "COS_OEM")], some " +1_024\n"⟩,
   ⟨"sda2", .partition, some "sda", [("ID_FS_LABEL", "COS_STATE")], some "\u0664\u0662"⟩,
   ⟨"sda3", .partition, some "sda", [("ID_FS_LABEL", "COS_RECOVERY")], some "-0"⟩,
   ⟨"sda4", .partition, some "sda", [], some "-8 GB"⟩,
   ⟨"sda5", .partition, some "sda", [("ID_FS_LABEL", "COS_PERSISTENT")], none⟩]

theorem disks_sized :
    (sample.withDevices sized).host.devices = .ok sized ∧
    ∃ table, (sample.withDevices sized).readIfThere mountsPath = .ok (some table) ∧
      ∃ disks, (sample.withDevices sized).disks.outcome = .ok disks ∧
        (∀ p ∈ Disk.allPartitions disks, 0 ≤ p.size) ∧
        ∀ (w : View) (role : Role) (issues : List Issue),
          (w.resolve role disks).outcome ≠ .error (.invalid issues) := by
  obtain ⟨table, htable⟩ :
      ∃ table, (sample.withDevices sized).readIfThere mountsPath = .ok (some table) := ⟨_, rfl⟩
  obtain ⟨disks, hdisks, -, hfit, -⟩ := disks_fit_iff (v := sample.withDevices sized) rfl htable
  have hsizes : ∀ d ∈ sized, d.type = .partition → ¬ IsNegativeSize d.size := by decide
  refine ⟨rfl, table, htable, disks, hdisks, hfit.mpr fun d hd => ?_⟩
  have hbelow := Disk.mem_devicesBelow.mp hd
  exact hsizes d hbelow.1 hbelow.2.1

def shrunken : List Device :=
  [⟨"sda", .disk, none, [], none⟩,
   ⟨"sda1", .partition, some "sda", [("ID_FS_LABEL", "COS_PERSISTENT")], some "-8"⟩]

def shrunkenDisks : List Disk :=
  [⟨"sda", [⟨"sda1", "", "", -4096, "", "COS_PERSISTENT", "", false⟩]⟩]

theorem resolve_shrunken :
    (sample.withDevices shrunken).disks.outcome = .ok shrunkenDisks ∧
    ((sample.withDevices shrunken).resolve .persistent shrunkenDisks).outcome =
      .error (.invalid [⟨.negative, ["size_bytes"], .int (-4096)⟩]) := by
  have hlisted : Disk.listed shrunken Mounts.sample = shrunkenDisks := by
    unfold Disk.listed Disk.names Disk.devicesOn Disk.byName
    rw [List.mergeSort_of_pairwise (by decide), List.mergeSort_of_pairwise (by decide)]
    decide
  have hdevices : (sample.withDevices shrunken).devices = .ok shrunken := rfl
  have hmounts : (sample.withDevices shrunken).mounts.outcome = .ok Mounts.sample := rfl
  refine ⟨?_, rfl⟩
  rw [disks_of_devices hdevices, outcome_bind_of_ok hmounts, Disk.outcome_ofDevices, hlisted]

end View

end HostSnapshot
