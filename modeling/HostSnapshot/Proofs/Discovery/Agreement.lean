import HostSnapshot.Proofs.Discovery.Commands
import HostSnapshot.Proofs.Discovery.Order
import HostSnapshot.Proofs.Discovery.Resolution
import HostSnapshot.Proofs.Json.Reading
import HostSnapshot.Proofs.Json.Records
import HostSnapshot.Proofs.Mounts.Options
import HostSnapshot.Proofs.Mounts.Table

namespace HostSnapshot

namespace FoundMount

def keys : List String := ["filesystems", "target", "fs-options"]

/-- An output that tells of one file system only. -/
def Tells (output : String) (m : FoundMount) : Prop :=
  ∃ ms fields : Json.Members, Json.ofOutput? output = some (.obj ms) ∧
    ms.find? "filesystems" = some (.arr [.obj fields]) ∧
    fields.Says "target" m.target ∧ fields.Says "fs-options" m.options

theorem ofMembers?_eq_some_iff {ms : Json.Members} {m : FoundMount} :
    ofMembers? ms = some m ↔ ms.Says "target" m.target ∧ ms.Says "fs-options" m.options := by
  rw [← Json.Members.optionalText?_eq_some_iff, ← Json.Members.optionalText?_eq_some_iff]
  obtain ⟨target, options⟩ := m
  unfold ofMembers?
  cases ms.optionalText? "target" with
  | none => simp
  | some _ =>
    cases ms.optionalText? "fs-options" with
    | none => simp
    | some _ => simp

theorem listOf?_eq_singleton_iff {output : String} {m : FoundMount} :
    listOf? output = some [m] ↔ Tells output m := by
  unfold listOf? Tells
  rw [Option.bind_eq_bind, Json.bind_readRecords?_eq_singleton_iff]
  simp only [ofMembers?_eq_some_iff]

theorem Tells.eq {output : String} {m n : FoundMount} (hm : Tells output m)
    (hn : Tells output n) : m = n := by
  rw [← listOf?_eq_singleton_iff] at hm hn
  rw [hm] at hn
  cases hn
  rfl

theorem listOf?_of_alike {output output' : String} {v w : Json}
    (hv : Json.ofOutput? output = some v) (hw : Json.ofOutput? output' = some w)
    (h : v.Alike keys w) : listOf? output = listOf? output' := by
  have hread : ∀ ms ms', Json.Edit keys (.obj ms) (.obj ms') → ofMembers? ms = ofMembers? ms' := by
    intro ms ms' h
    unfold ofMembers?
    rw [h.optionalText?_eq (by decide), h.optionalText?_eq (by decide)]
  unfold listOf?
  rw [hv, hw]
  exact Json.congr_of_eqvGen (f := Json.readRecords? "filesystems" ofMembers?)
    (fun v w hvw => hvw.readRecords?_eq hread (by decide)) h

end FoundMount

open Traced

/-- An output that tells of one mount only. -/
def FoundMount.IsOnly (output target options : String) : Prop :=
  ∃ ms fields : Json.Members, Json.ofOutput? output = some (.obj ms) ∧
    ms.find? "filesystems" = some (.arr [.obj fields]) ∧
    fields.find? "target" = some (.str target) ∧ fields.find? "fs-options" = some (.str options)

theorem FoundMount.listOf?_of_isOnly {output target options : String}
    (h : IsOnly output target options) : listOf? output = some [⟨target, options⟩] := by
  obtain ⟨ms, fields, houtput, hlist, htarget, hoptions⟩ := h
  exact listOf?_eq_singleton_iff.mpr
    ⟨ms, fields, houtput, hlist, .text htarget, .text hoptions⟩

theorem isWritten_deviceFile {name : String}
    (h : ∀ c ∈ name.toList, Text.isBlank c = false) :
    deviceFile name ≠ "" ∧ Mounts.IsWritten (deviceFile name).toList := by
  have hchars : (deviceFile name).toList = "/dev/".toList ++ name.toList := by
    rw [deviceFile, String.toList_append]
  have hfolder : ∀ c ∈ "/dev/".toList, Text.isBlank c = false := by
    simp [Text.isBlank]
  constructor
  · intro heq
    rw [heq] at hchars
    cases hchars
  · intro c hc hb
    rw [hchars, List.mem_append] at hc
    have hplain := hc.elim (hfolder c) (h c)
    rw [hplain] at hb
    cases hb

theorem Device.asPartition_mount {mounts : Mounts} {d : Device} {mount : Option Mount}
    (h : mounts.lookup (deviceFile d.name) = mount) :
    (d.asPartition mounts).mountPoint = (mount.getD ⟨"", false⟩).point ∧
      (d.asPartition mounts).readOnly = (mount.getD ⟨"", false⟩).readOnly := by
  unfold asPartition
  rw [h]
  exact ⟨rfl, rfl⟩

/-- What is mounted only matters to where a partition is mounted. -/
theorem Device.state_asPartition (d : Device) (mounts mounts' : Mounts) (point : String)
    (readOnly : Bool) :
    (d.asPartition mounts).state point readOnly = (d.asPartition mounts').state point readOnly :=
  rfl

theorem Partition.state_eq {p : Partition} (h : 0 ≤ p.size) (point : String) (readOnly : Bool) :
    p.state point readOnly = .ok (.found ⟨deviceFile p.name, p.label, p.filesystemLabel, point,
      p.size.toNat, p.type, readOnly, p.uuid⟩) := by
  unfold state
  rw [if_neg (Int.not_lt.mpr h)]

theorem Partition.state_eq_found {p : Partition} (h : 0 ≤ p.size) (point : String)
    (readOnly : Bool) : ∃ found, p.state point readOnly = .ok (.found found) ∧
      found.name = deviceFile p.name ∧ found.mountPoint = point ∧ found.readOnly = readOnly :=
  ⟨_, state_eq h point readOnly, rfl, rfl, rfl⟩

namespace View

/-- The mount table tells where a device is mounted. -/
def Tables (v : View) (device point options : String) : Prop :=
  ∃ table, v.readText mountsPath = .ok table ∧ Mounts.Gives device point options table

/-- The mount table does not know a device, and `findmnt` tells where its label is mounted. -/
def Finds (v : View) (device label point options : String) : Prop :=
  ∃ table r, v.readText mountsPath = .ok table ∧ Mounts.IsSilent device table ∧
    v.host.tool ["findmnt", "/dev/disk/by-label/" ++ label, "-f", "-J", "-o",
      "TARGET,FS-OPTIONS"] = .ok r ∧
    r.status = 0 ∧ FoundMount.IsOnly r.output point options

theorem disks_of_text {v : View} {ds : List Device} (hds : v.host.devices = .ok ds)
    {table : List Char} (ht : v.readText mountsPath = .ok table) :
    v.disks.outcome = .ok (Disk.listed ds (Mounts.ofText table)) := by
  have hmounts : v.mounts.outcome = .ok (Mounts.ofText table) := by
    unfold mounts
    rw [ht]
    exact outcome_orDefault_of_ok rfl
  rw [disks_of_devices (devices_of_ok hds), outcome_bind_of_ok hmounts, Disk.outcome_ofDevices]

theorem getLast?_labelled {ds : List Device} {label : String} {d : Device}
    (hd : (Disk.carriers ds label).getLast? = some d) (mounts : Mounts) :
    (Disk.labelled label (Disk.listed ds mounts)).getLast? = some (d.asPartition mounts) := by
  rw [Disk.labelled_listed, List.getLast?_map, hd]
  rfl

/-- A device in the mount table needs no tool. -/
theorem resolve_of_lookup_some {v : View} {ds : List Device} {role : Role} {d : Device}
    (hd : (Disk.carriers ds role.label).getLast? = some d) {mounts : Mounts} {mount : Mount}
    (hmount : mounts.lookup (deviceFile d.name) = some mount) (hpoint : mount.point ≠ "") :
    (v.resolve role (Disk.listed ds mounts)).outcome =
      (d.asPartition mounts).state mount.point mount.readOnly := by
  obtain ⟨hp, hr⟩ := Device.asPartition_mount hmount
  have hwants : ¬ (d.asPartition mounts).wantsMount = true := by
    simp [Partition.wantsMount, hp, hpoint]
  rw [resolve_of_some (getLast?_labelled hd mounts), partitionState_eq, if_neg hwants, stateWith,
    outcome_ofExcept, hp, hr]
  rfl

/-- A device that is not there has what `findmnt` says. -/
theorem resolve_of_lookup_none {v : View} {ds : List Device} {role : Role} {d : Device}
    (hd : (Disk.carriers ds role.label).getLast? = some d) {mounts : Mounts}
    (hmount : mounts.lookup (deviceFile d.name) = none) {m : FoundMount}
    (hm : (v.findmnt role.label).outcome = .ok (some m)) :
    (v.resolve role (Disk.listed ds mounts)).outcome =
      (d.asPartition mounts).state m.target (MountOptions.decide m.options.toList false) := by
  obtain ⟨hp, hr⟩ := Device.asPartition_mount hmount
  have hlabel := filesystemLabel_of_getLast? (getLast?_labelled hd mounts)
  have hwants : (d.asPartition mounts).wantsMount = true := by
    have hrole : role.label ≠ "" := by cases role <;> decide
    simp [Partition.wantsMount, hp, hlabel, hrole]
  rw [resolve_of_some (getLast?_labelled hd mounts), partitionState_eq, if_pos hwants, hlabel,
    outcome_bind_of_ok hm, stateWith, outcome_bind_of_ok (MountOptions.outcome_readOnly _ _),
    outcome_ofExcept, hr]
  rfl

theorem outcome_findmnt {v : View} {device label point options : String}
    (h : v.Finds device label point options) :
    (v.findmnt label).outcome = .ok (some ⟨point, options⟩) := by
  obtain ⟨_, r, -, -, htool, hstatus, honly⟩ := h
  exact outcome_ask_of_one htool hstatus (FoundMount.listOf?_of_isOnly honly)

/-- Where the selected partition of a role is mounted and whether it is read-only may be learnt
from the mount table or from `findmnt`: the state is the same. -/
theorem resolve_findmnt_eq_mounts {v w : View} {ds : List Device} (hv : v.host.devices = .ok ds)
    (hw : w.host.devices = .ok ds) {role : Role} {disks : List Disk}
    (hdisks : v.disks.outcome = .ok disks) {p : Partition}
    (hp : (Disk.withLabel role.label disks).outcome = .ok (some p))
    (hname : ∀ c ∈ p.name.toList, Text.isBlank c = false) (hsize : 0 ≤ p.size)
    {point options : String}
    (hpoint : point ≠ "" ∧ ∀ c ∈ point.toList, Text.isBlank c = true →
      c = ' ' ∨ c = '\t' ∨ c = '\n')
    (hoptions : options ≠ "" ∧ ∀ c ∈ options.toList, Text.isBlank c = false)
    (htables : v.Tables (deviceFile p.name) point options)
    (hfinds : w.Finds (deviceFile p.name) role.label point options) :
    ∃ disks', w.disks.outcome = .ok disks' ∧
      (w.resolve role disks').outcome = (v.resolve role disks).outcome ∧
      ∃ found, (v.resolve role disks).outcome = .ok (.found found) ∧
        found.name = deviceFile p.name ∧ found.mountPoint = point ∧
        found.readOnly = (Text.pieces (· == ',') options.toList).contains ['r', 'o'] := by
  obtain ⟨table, htable, hgives⟩ := htables
  have hfound := outcome_findmnt hfinds
  obtain ⟨table', r, htable', hsilent, -⟩ := hfinds
  rw [disks_of_text hv htable, Except.ok.injEq] at hdisks
  subst hdisks
  -- The device is the same whatever is mounted.
  rw [Disk.outcome_withLabel, Except.ok.injEq, Disk.labelled_listed, List.getLast?_map,
    Option.map_eq_some_iff] at hp
  obtain ⟨d, hd, rfl⟩ := hp
  have hwritten : Mounts.IsWritten point.toList := by
    intro c hc hb
    rcases hpoint.2 c hc hb with rfl | rfl | rfl <;> rfl
  have hline : '\n' ∉ options.toList := by
    intro h
    cases hoptions.2 _ h
  have hmounted : (v.resolve role (Disk.listed ds (Mounts.ofText table))).outcome =
      (d.asPartition (Mounts.ofText table)).state point
        ((Text.pieces (· == ',') options.toList).contains ['r', 'o']) :=
    resolve_of_lookup_some hd (Mounts.lookup_of_gives hgives (isWritten_deviceFile hname)
      ⟨hpoint.1, hwritten⟩ hoptions) hpoint.1
  refine ⟨_, disks_of_text hw htable', ?_, ?_⟩
  · rw [hmounted, resolve_of_lookup_none hd (Mounts.lookup_of_isSilent hsilent) hfound,
      MountOptions.decide_false hline, d.state_asPartition]
  · rw [hmounted]
    exact Partition.state_eq_found hsize _ _

def sampleWith (table printed : String) : View :=
  { sample with host := { sample.host with
      files := ⟨.dir [("proc", .dir [("mounts",
        .file (table.toList.map (·.toNat.toUInt8)))])], []⟩
      tool := fun _ => .ok ⟨printed, "", 0⟩ } }

def otherTable : String := "proc /proc proc rw 0 0\n"

/-- A table that tells of a mount point with a blank in its name. -/
def mountedTable : String :=
  otherTable ++ "/dev/sda2 /run/my\\040disk ext4 rw,errors=remount-ro,ro 0 0\n"

def foundMount : Json :=
  .obj [("filesystems", .arr [.obj [("target", .str "/run/my disk"),
    ("fs-options", .str "rw,errors=remount-ro,ro")]])]

theorem sampleWith_tables (printed : String) : (sampleWith mountedTable printed).Tables
    "/dev/sda2" "/run/my disk" "rw,errors=remount-ro,ro" := by
  have hsilent : Mounts.IsSilent "/dev/sda2" otherTable.toList := by
    unfold Mounts.IsSilent
    decide
  have hplain : ∀ field ∈ ["ext4".toList, ['0'], ['0']],
      field ≠ [] ∧ ∀ c ∈ field, Text.isBlank c = false := by
    simp [Text.isBlank]
  exact ⟨mountedTable.toList, rfl, .line otherTable.toList "ext4".toList
    "rw,errors=remount-ro,ro".toList ['\n'] [['0'], ['0']] (.inr rfl) hsilent hplain (.inl rfl)
    (.inr rfl)⟩

theorem sampleWith_finds : (sampleWith otherTable (foundMount.render .spaced)).Finds
    "/dev/sda2" Role.state.label "/run/my disk" "rw,errors=remount-ro,ro" := by
  have hsilent : Mounts.IsSilent "/dev/sda2" otherTable.toList := by
    unfold Mounts.IsSilent
    decide
  have hread : Json.ofOutput? (foundMount.render .spaced) = some foundMount :=
    Json.ofOutput?_render Json.Style.spaced_isReadable rfl rfl (by decide)
  exact ⟨otherTable.toList, _, rfl, hsilent, rfl, rfl, _, _, hread, rfl, rfl, rfl⟩

theorem carriers_samples : Disk.carriers Device.samples Role.state.label =
    [⟨"sda2", .partition, some "sda", [("ID_FS_LABEL", "COS_STATE")], some "4096"⟩] := by
  unfold Disk.carriers Disk.names Disk.devicesOn Disk.byName
  rw [List.mergeSort_of_pairwise (by decide), List.mergeSort_of_pairwise (by decide)]
  decide

theorem sample_findmnt_eq_mounts :
    ∃ disks disks', (sampleWith mountedTable "").disks.outcome = .ok disks ∧
      (sampleWith otherTable (foundMount.render .spaced)).disks.outcome = .ok disks' ∧
      ((sampleWith otherTable (foundMount.render .spaced)).resolve .state disks').outcome =
        ((sampleWith mountedTable "").resolve .state disks).outcome ∧
      ∃ found, ((sampleWith mountedTable "").resolve .state disks).outcome = .ok (.found found) ∧
        found.mountPoint = "/run/my disk" ∧ found.readOnly = true := by
  have hdisks : (sampleWith mountedTable "").disks.outcome =
      .ok (Disk.listed Device.samples (Mounts.ofText mountedTable.toList)) :=
    disks_of_text rfl rfl
  have hselected : (Disk.withLabel Role.state.label
      (Disk.listed Device.samples (Mounts.ofText mountedTable.toList))).outcome =
        .ok (some ⟨"sda2", "", "", 2097152, "", "COS_STATE", "/run/my disk", true⟩) := by
    rw [Disk.outcome_withLabel, Disk.labelled_listed, carriers_samples, Except.ok.injEq]
    decide
  have hname : ∀ c ∈ "sda2".toList, Text.isBlank c = false := by simp [Text.isBlank]
  have hpoint : ∀ c ∈ "/run/my disk".toList, Text.isBlank c = true →
      c = ' ' ∨ c = '\t' ∨ c = '\n' := by
    simp [Text.isBlank]
  have hoptions : ∀ c ∈ "rw,errors=remount-ro,ro".toList, Text.isBlank c = false := by
    simp [Text.isBlank]
  obtain ⟨disks', hdisks', heq, found, hfound, -, hmounted, hflag⟩ :=
    resolve_findmnt_eq_mounts (w := sampleWith otherTable (foundMount.render .spaced)) rfl rfl
      hdisks hselected hname (by decide) ⟨by decide, hpoint⟩ ⟨by decide, hoptions⟩
      (sampleWith_tables "") sampleWith_finds
  exact ⟨_, disks', hdisks, hdisks', heq, found, hfound, hmounted, hflag.trans (by decide)⟩

end View

end HostSnapshot
