import HostSnapshot.Proofs.Discovery.Capture
import HostSnapshot.Proofs.Discovery.Mounts

namespace HostSnapshot

/-- The commands that the partition of a role takes: one to find out where it is mounted, unless
the mount table tells, and one to find it, if it is not listed and may be a volume. -/
def Role.commands (role : Role) (mounts : Mounts) (disks : List Disk) : List (List String) :=
  match (Disk.labelled role.label disks).getLast? with
  | some p =>
    if mounts.lookup (deviceFile p.name) = none then
      [["findmnt", "/dev/disk/by-label/" ++ role.label, "-f", "-J", "-o", "TARGET,FS-OPTIONS"]]
    else []
  | none =>
    if role = .recovery ∨ role = .oem then
      [["lsblk", "/dev/disk/by-label/" ++ role.label, "-o", "PATH,FSTYPE,MOUNTPOINT,SIZE,RO,LABEL",
        "-J"]]
    else []

namespace View

theorem filesystemLabel_of_getLast? {label : String} {disks : List Disk} {p : Partition}
    (h : (Disk.labelled label disks).getLast? = some p) : p.filesystemLabel = label := by
  have hmem := List.mem_of_getLast? h
  rw [Disk.labelled, List.mem_filter, decide_eq_true_eq] at hmem
  exact hmem.2

theorem wantsMount_iff {mounts : Mounts} (h : ∀ entry ∈ mounts, entry.2.point ≠ "")
    {ds : List Device} {role : Role} {p : Partition}
    (hp : (Disk.labelled role.label (Disk.listed ds mounts)).getLast? = some p) :
    p.wantsMount = true ↔ mounts.lookup (deviceFile p.name) = none := by
  -- `findmnt` is not asked about an empty label, but no role has one.
  have hlabel : p.filesystemLabel ≠ "" := by
    rw [filesystemLabel_of_getLast? hp]
    cases role <;> decide
  obtain ⟨d, rfl⟩ := Disk.mem_allPartitions_listed
    (List.mem_filter.mp (List.mem_of_getLast? hp)).1
  rw [Device.asPartition_name, ← Device.mountPoint_eq_empty h d]
  simp [Partition.wantsMount, hlabel]

/-- What a role takes is told by the mount table and the disks, whatever the tools answer. -/
theorem calls_resolve_eq_commands {v : View} {ds : List Device} {mounts : Mounts}
    (h : ∀ entry ∈ mounts, entry.2.point ≠ "") (role : Role) :
    (v.resolve role (Disk.listed ds mounts)).calls =
      (role.commands mounts (Disk.listed ds mounts)).map fun command => (command, v.directory) := by
  rw [calls_resolve, Role.commands]
  cases hp : (Disk.labelled role.label (Disk.listed ds mounts)).getLast? with
  | some p =>
    have hwants := wantsMount_iff h hp
    have hlabel := filesystemLabel_of_getLast? hp
    dsimp only
    rw [calls_partitionState, hlabel]
    by_cases hm : mounts.lookup (deviceFile p.name) = none
    · rw [if_pos (hwants.mpr hm), if_pos hm]
      rfl
    · rw [if_neg fun hw => hm (hwants.mp hw), if_neg hm]
      rfl
  | none =>
    dsimp only
    rw [calls_volumeState]
    cases role <;> rfl

/-- A snapshot runs the commands of its roles in their order and no others. A role whose partition
is listed is found, and only such a role is unless it may be a volume. -/
theorem calls_snapshot {v : View} {s : Snapshot} (h : v.snapshot.outcome = .ok s) :
    ∃ mounts disks, v.mounts.outcome = .ok mounts ∧ v.disks.outcome = .ok disks ∧
      v.snapshot.calls = ([.persistent, .recovery, .oem, .state].flatMap fun role =>
        Role.commands role mounts disks).map (fun command => (command, v.directory)) ∧
      (∀ role, (∃ p ∈ Disk.allPartitions disks, p.filesystemLabel = Role.label role) →
        (s.partition role).isFound = true) ∧
      ∀ role, role = .persistent ∨ role = .state → (s.partition role).isFound = true →
        ∃ p ∈ Disk.allPartitions disks, p.filesystemLabel = Role.label role := by
  obtain ⟨disks, hdisks, hresolve, hcalls⟩ := snapshot_eq_ok h
  obtain ⟨ds, mounts, -, hmounts, rfl⟩ := disks_eq_ok hdisks
  have hpoints := point_of_mounts hmounts
  refine ⟨mounts, Disk.listed ds mounts, hmounts, hdisks, ?_, ?_, ?_⟩
  · rw [hcalls, List.map_flatMap]
    simp only [calls_resolve_eq_commands hpoints]
    rfl
  · rintro role ⟨p, hp, hlabel⟩
    have hmem : p ∈ Disk.labelled role.label (Disk.listed ds mounts) :=
      List.mem_filter.mpr ⟨hp, decide_eq_true hlabel⟩
    have hlast := List.getLast?_eq_some_getLast (List.ne_nil_of_mem hmem)
    have hstate := hresolve role
    rw [resolve_of_some hlast] at hstate
    obtain ⟨found, hfound, -⟩ := partitionState_eq_ok hstate
    rw [hfound]
    rfl
  · intro role hrole hfound
    -- Neither role may be a volume, so without a listed partition it is absent.
    cases hlast : (Disk.labelled role.label (Disk.listed ds mounts)).getLast? with
    | some p =>
      have hmem := List.mem_filter.mp (List.mem_of_getLast? hlast)
      exact ⟨p, hmem.1, of_decide_eq_true hmem.2⟩
    | none =>
      have hvolume : role.mayBeVolume = false := by
        rcases hrole with rfl | rfl <;> rfl
      have hstate := hresolve role
      rw [resolve_of_none hlast hvolume, Except.ok.injEq] at hstate
      rw [← hstate] at hfound
      cases hfound

theorem sample_calls : ∃ s, sample.snapshot.outcome = .ok s ∧
    sample.snapshot.calls =
      [(["lsblk", "/dev/disk/by-label/COS_RECOVERY", "-o", "PATH,FSTYPE,MOUNTPOINT,SIZE,RO,LABEL",
        "-J"], "/"),
      (["findmnt", "/dev/disk/by-label/COS_OEM", "-f", "-J", "-o", "TARGET,FS-OPTIONS"], "/")] ∧
    s.state.isFound = true := by
  obtain ⟨s, hs⟩ := snapshot_sample
  obtain ⟨mounts, disks, hmounts, hdisks, hcalls, hfound, -⟩ := calls_snapshot hs
  rw [mounts_sample, Except.ok.injEq] at hmounts
  rw [disks_sample, Except.ok.injEq] at hdisks
  subst hmounts hdisks
  refine ⟨s, hs, ?_, hfound .state (by decide)⟩
  rw [hcalls]
  decide

end View

end HostSnapshot
