import HostSnapshot.Proofs.Discovery.Capture
import Mathlib.Data.List.Nodup

namespace HostSnapshot

namespace Disk

theorem pairwise_byName (ds : List Device) : (byName ds).Pairwise (fun a b => a.name ≤ b.name) := by
  unfold byName
  refine (List.pairwise_mergeSort ?_ ?_ ds).imp of_decide_eq_true
  · intro a b c hab hbc
    rw [decide_eq_true_eq] at *
    exact String.le_trans hab hbc
  · intro a b
    rw [Bool.or_eq_true, decide_eq_true_eq, decide_eq_true_eq]
    exact String.le_total a.name b.name

/-- Devices with distinct names have one order. -/
theorem byName_eq_of_perm {ds ds' : List Device} (h : ds'.Perm ds)
    (hnames : (ds.map (·.name)).Nodup) : byName ds' = byName ds := by
  apply List.Perm.eq_of_pairwise _ (pairwise_byName ds') (pairwise_byName ds)
  · exact (List.mergeSort_perm ds' _).trans (h.trans (List.mergeSort_perm ds _).symm)
  · intro a b ha hb hab hba
    have ha' : a ∈ ds := h.mem_iff.mp (List.mem_mergeSort.mp ha)
    have hb' : b ∈ ds := List.mem_mergeSort.mp hb
    exact List.inj_on_of_nodup_map hnames ha' hb' (String.le_antisymm hab hba)

theorem map_name_byName_eq_of_perm {ds ds' : List Device} (h : ds'.Perm ds) :
    (byName ds').map (·.name) = (byName ds).map (·.name) := by
  have hsorted (ds : List Device) := List.pairwise_map.mpr (pairwise_byName ds)
  apply List.Perm.eq_of_pairwise _ (hsorted ds') (hsorted ds)
  · exact ((List.mergeSort_perm ds' _).trans (h.trans (List.mergeSort_perm ds _).symm)).map _
  · intro a b _ _ hab hba
    exact String.le_antisymm hab hba

theorem pairwise_lt_eraseDups {l : List String} (h : l.Pairwise (· ≤ ·)) :
    l.eraseDups.Pairwise (· < ·) := by
  match l with
  | [] => simp
  | a :: as =>
    rw [List.eraseDups_cons]
    rw [List.pairwise_cons] at h ⊢
    constructor
    · intro b hb
      rw [List.mem_eraseDups, List.mem_filter] at hb
      apply Std.lt_of_le_of_ne (h.1 b hb.1)
      rintro rfl
      simp at hb
    · have hlen : (as.filter fun b => !b == a).length ≤ as.length := List.length_filter_le _ _
      exact pairwise_lt_eraseDups (h.2.filter _)
termination_by l.length

theorem pairwise_names (ds : List Device) : (names ds).Pairwise (· < ·) :=
  pairwise_lt_eraseDups (List.pairwise_map.mpr (pairwise_byName _))

theorem mem_names {ds : List Device} {name : String} :
    name ∈ names ds ↔ ∃ d ∈ ds, d.type = .disk ∧ d.name = name := by
  simp [names, byName, and_assoc]

theorem names_eq_of_perm {ds ds' : List Device} (h : ds'.Perm ds) : names ds' = names ds := by
  unfold names
  rw [map_name_byName_eq_of_perm (h.filter _)]

theorem mem_devicesOn {ds : List Device} {disk : String} {d : Device} :
    d ∈ devicesOn ds disk ↔ d ∈ ds ∧ d.type = .partition ∧ d.parent = some disk := by
  simp [devicesOn, byName, and_assoc]

theorem ofDevices_eq_of_perm {ds ds' : List Device} (h : ds'.Perm ds)
    (hnames : ((ds.filter (·.type = .partition)).map (·.name)).Nodup) (mounts : Mounts) :
    ofDevices ds' mounts = ofDevices ds mounts := by
  unfold ofDevices
  rw [names_eq_of_perm h, byName_eq_of_perm (h.filter _) hnames]

end Disk

/-- A partition device with a file system label, on a listed disk. -/
structure Device.Carries (devices : List Device) (label disk : String) (d : Device) : Prop where
  listed : d ∈ devices
  type : d.type = .partition
  label : d.property "ID_FS_LABEL" = label
  parent : d.parent = some disk
  disk : ∃ b ∈ devices, b.type = .disk ∧ b.name = disk

namespace Disk

def carriers (devices : List Device) (label : String) : List Device :=
  (names devices).flatMap fun disk =>
    (devicesOn devices disk).filter (·.property "ID_FS_LABEL" = label)

theorem labelled_listed (devices : List Device) (mounts : Mounts) (label : String) :
    labelled label (listed devices mounts) =
      (carriers devices label).map (·.asPartition mounts) := by
  simp only [labelled, allPartitions, listed, carriers, List.flatMap_map, List.filter_flatMap,
    List.map_flatMap, List.filter_map]
  rfl

theorem mem_carriers {devices : List Device} {label : String} {d : Device} :
    d ∈ carriers devices label ↔ ∃ disk, d.Carries devices label disk := by
  simp only [carriers, List.mem_flatMap, List.mem_filter, mem_names, mem_devicesOn,
    decide_eq_true_eq]
  constructor
  · rintro ⟨disk, hdisk, ⟨hd, htype, hparent⟩, hlabel⟩
    exact ⟨disk, hd, htype, hlabel, hparent, hdisk⟩
  · rintro ⟨disk, hd, htype, hlabel, hparent, hdisk⟩
    exact ⟨disk, hdisk, ⟨hd, htype, hparent⟩, hlabel⟩

theorem pairwise_carriers (devices : List Device) (label : String) :
    (carriers devices label).Pairwise fun a b => ∀ disk disk', a.parent = some disk →
      b.parent = some disk' → disk < disk' ∨ disk = disk' ∧ a.name ≤ b.name := by
  have hon {disk : String} {d : Device}
      (h : d ∈ (devicesOn devices disk).filter (·.property "ID_FS_LABEL" = label)) :
      d.parent = some disk :=
    (mem_devicesOn.mp (List.mem_filter.mp h).1).2.2
  rw [carriers, List.pairwise_flatMap]
  constructor
  -- Within a disk the devices keep the order of their names.
  · intro disk _
    have hsorted := ((pairwise_byName (devices.filter (·.type = .partition))).filter
      (·.parent = some disk)).filter (·.property "ID_FS_LABEL" = label)
    apply hsorted.imp_of_mem
    intro a b ha hb hab disk' disk'' ha' hb'
    have h := (hon ha).symm.trans ha'
    have h' := (hon hb).symm.trans hb'
    exact .inr ⟨Option.some.inj (h.symm.trans h'), hab⟩
  -- Disks come in strict order, each once.
  · apply (pairwise_names devices).imp
    intro disk disk' hlt a ha b hb _ _ ha' hb'
    rw [hon ha, Option.some.injEq] at ha'
    rw [hon hb, Option.some.injEq] at hb'
    exact .inl (ha' ▸ hb' ▸ hlt)

/-- The last device with a label is the one on the greatest disk with the greatest name. -/
theorem getLast?_carriers {devices : List Device} {label : String} {d : Device}
    (h : (carriers devices label).getLast? = some d) :
    ∃ disk, d.Carries devices label disk ∧ ∀ disk' (d' : Device), d'.Carries devices label disk' →
      disk' < disk ∨ disk' = disk ∧ d'.name ≤ d.name := by
  obtain ⟨disk, hd⟩ := mem_carriers.mp (List.mem_of_getLast? h)
  refine ⟨disk, hd, ?_⟩
  intro disk' d' hd'
  obtain ⟨before, hbefore⟩ := List.getLast?_eq_some_iff.mp h
  have hsorted := pairwise_carriers devices label
  have hmem : d' ∈ carriers devices label := mem_carriers.mpr ⟨disk', hd'⟩
  rw [hbefore] at hsorted hmem
  rcases List.mem_append.mp hmem with hmem | hmem
  · exact (List.pairwise_append.mp hsorted).2.2 d' hmem d List.mem_cons_self disk' disk hd'.parent
      hd.parent
  · rw [List.mem_singleton] at hmem
    subst hmem
    exact .inr ⟨Option.some.inj (hd'.parent.symm.trans hd.parent), String.le_refl _⟩

end Disk

namespace View

def withDevices (v : View) (ds : List Device) : View :=
  { v with host := { v.host with devices := .ok ds } }

/-- Only the disks depend on the device list. -/
theorem snapshot_withDevices {v : View} {ds : List Device}
    (h : (v.withDevices ds).disks = v.disks) : (v.withDevices ds).snapshot = v.snapshot := by
  have hdisks (learnt : Snapshot) : (v.withDevices ds).disksOr learnt = v.disksOr learnt := by
    unfold disksOr
    rw [h]
  have hboot : (v.withDevices ds).boot = v.boot := rfl
  have hidentity (live : Bool) : (v.withDevices ds).identity live = v.identity live := rfl
  have hfacts (live : Bool) : (v.withDevices ds).facts live = v.facts live := rfl
  have hdistribution : (v.withDevices ds).distribution = v.distribution := rfl
  have hresolve : (v.withDevices ds).resolve = v.resolve := rfl
  unfold snapshot
  simp only [hdisks, hboot, hidentity, hfacts, hdistribution, hresolve]
  rfl

/-- The device list gives the same record in every order, be it of a snapshot or of a fault. -/
theorem snapshot_eq_of_perm {v : View} {ds ds' : List Device} (hds : v.devices = .ok ds)
    (hnames : ((ds.filter (·.type = .partition)).map (·.name)).Nodup) (h : ds'.Perm ds) :
    (v.withDevices ds').snapshot = v.snapshot := by
  have hds' : (v.withDevices ds').devices = .ok ds' := rfl
  have hmounts : (v.withDevices ds').mounts = v.mounts := rfl
  have hlist : Disk.ofDevices ds' = Disk.ofDevices ds := by
    funext mounts
    exact Disk.ofDevices_eq_of_perm h hnames mounts
  apply snapshot_withDevices
  rw [disks_of_devices hds', disks_of_devices hds, hmounts, hlist]

theorem selects_last {v : View} {ds : List Device} (hds : v.devices = .ok ds) {role : Role}
    {d : Device} (hd : (Disk.carriers ds role.label).getLast? = some d) :
    (∀ mounts, v.mounts.outcome = .ok mounts → ∃ disks p, v.disks.outcome = .ok disks ∧
      (d.partition mounts).outcome = .ok p ∧
      (Disk.withLabel role.label disks).outcome = .ok (some p)) ∧
    ∀ s, v.snapshot.outcome = .ok s → ∃ found, s.partition role = .found found ∧
      found.name = deviceFile d.name := by
  have hselected (mounts : Mounts) :
      (Disk.labelled role.label (Disk.listed ds mounts)).getLast? =
        some (d.asPartition mounts) := by
    rw [Disk.labelled_listed, List.getLast?_map, hd]
    rfl
  constructor
  · intro mounts hmounts
    refine ⟨Disk.listed ds mounts, _, ?_, d.outcome_partition mounts, ?_⟩
    · rw [disks_of_devices hds, Traced.outcome_bind_of_ok hmounts, Disk.outcome_ofDevices]
    · rw [Disk.outcome_withLabel, hselected]
  · intro s hs
    obtain ⟨disks, hdisks, hresolve, -⟩ := snapshot_eq_ok hs
    obtain ⟨ds', mounts, hds', -, rfl⟩ := disks_eq_ok hdisks
    rw [hds, Except.ok.injEq] at hds'
    subst hds'
    have hstate := hresolve role
    rw [resolve_of_some (hselected mounts)] at hstate
    obtain ⟨found, hfound, hname, -⟩ := partitionState_eq_ok hstate
    exact ⟨found, hfound, hname⟩

/-- A snapshot does not depend on the order of the device list. For each role it shows the
partition on the greatest disk, and there the one with the greatest name. -/
theorem snapshot_order {v : View} {ds : List Device} (hds : v.host.devices = .ok ds)
    (hnames : ((ds.filter (·.type = .partition)).map (·.name)).Nodup) :
    (∀ ds', ds'.Perm ds → (v.withDevices ds').snapshot = v.snapshot) ∧
    ∀ role, (∃ disk d, Device.Carries ds (Role.label role) disk d) →
      ∃ disk d, Device.Carries ds (Role.label role) disk d ∧
        (∀ disk' d', Device.Carries ds role.label disk' d' →
          disk' < disk ∨ disk' = disk ∧ d'.name ≤ d.name) ∧
        (∀ mounts, v.mounts.outcome = .ok mounts → ∃ disks p, v.disks.outcome = .ok disks ∧
          (d.partition mounts).outcome = .ok p ∧
          (Disk.withLabel role.label disks).outcome = .ok (some p)) ∧
        ∀ s, v.snapshot.outcome = .ok s → ∃ found, s.partition role = .found found ∧
          found.name = deviceFile d.name := by
  have hdevices : v.devices = .ok ds := by
    unfold devices
    rw [hds]
  constructor
  · intro ds' hperm
    exact snapshot_eq_of_perm hdevices hnames hperm
  · rintro role ⟨disk₀, d₀, h₀⟩
    -- The selected device is the last carrier, and carriers are sorted.
    have hne : Disk.carriers ds role.label ≠ [] :=
      List.ne_nil_of_mem (Disk.mem_carriers.mpr ⟨disk₀, h₀⟩)
    have hlast := List.getLast?_eq_some_getLast hne
    obtain ⟨disk, hd, hmax⟩ := Disk.getLast?_carriers hlast
    exact ⟨disk, _, hd, hmax, selects_last hdevices hlast⟩

theorem sample_order :
    sample.host.devices = .ok Device.samples ∧
    ((Device.samples.filter (·.type = .partition)).map (·.name)).Nodup ∧
    (sample.withDevices Device.samples.reverse).snapshot = sample.snapshot ∧
    ∃ s found, sample.snapshot.outcome = .ok s ∧ s.oem = .found found ∧
      found.name = "/dev/sdb1" := by
  have hnames : ((Device.samples.filter (·.type = .partition)).map (·.name)).Nodup := by decide
  obtain ⟨hperm, hselect⟩ := snapshot_order (v := sample) rfl hnames
  obtain ⟨s, hs⟩ := snapshot_sample
  have hlast : Device.Carries Device.samples Role.oem.label "sdb"
      ⟨"sdb1", .partition, some "sdb", [("ID_FS_LABEL", "COS_OEM")], some "2048"⟩ :=
    ⟨by decide, rfl, by decide, rfl, by decide⟩
  obtain ⟨disk, d, hd, hmax, -, hstate⟩ := hselect .oem ⟨_, _, hlast⟩
  obtain ⟨found, hfound, hname⟩ := hstate s hs
  refine ⟨rfl, hnames, hperm _ (List.reverse_perm _), s, found, hs, hfound, ?_⟩
  rw [hname]
  have hmem := hd.listed
  simp only [Device.samples, List.mem_cons, List.not_mem_nil, or_false] at hmem
  -- Of the sample devices only one is a partition with this label on the last disk.
  rcases hmem with rfl | rfl | rfl | rfl | rfl
  · cases hd.type
  · obtain rfl : "sda" = disk := Option.some.inj hd.parent
    exact absurd (hmax _ _ hlast) (by decide)
  · exact absurd hd.label (by decide)
  · cases hd.type
  · rfl

end View

end HostSnapshot
