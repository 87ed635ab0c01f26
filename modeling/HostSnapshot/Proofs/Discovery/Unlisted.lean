import HostSnapshot.CommandLine.Report
import HostSnapshot.Proofs.Discovery.Capture

namespace HostSnapshot

open Traced

namespace View

/-- All that is learnt of a host before its devices are listed. -/
def learn (v : View) : Traced Snapshot := do
  let boot ← v.boot
  let uuid ← Traced.ofExcept (v.identity v.isLive)
  let system ← v.facts v.isLive
  let distribution ← v.distribution
  return assemble boot uuid system distribution fun _ => .absent

/-- The rest of a snapshot: the partitions of the roles. -/
def locate (v : View) (learnt : Snapshot) : Traced Snapshot := do
  let disks ← v.disksOr learnt
  let persistent ← v.resolve .persistent disks
  let recovery ← v.resolve .recovery disks
  let oem ← v.resolve .oem disks
  let state ← v.resolve .state disks
  Traced.debug "runtime" s!"snapshot {learnt.uuid}: boot={learnt.boot.name}"
  return { learnt with persistent, recovery, oem, state }

theorem snapshot_eq_bind (v : View) : v.snapshot = v.learn >>= v.locate := by
  unfold snapshot learn
  simp only [bind_assoc, pure_bind]
  rfl

theorem isQuiet_learn (v : View) : v.learn.IsQuiet := by
  refine v.isQuiet_boot.bind fun _ => (isQuiet_ofExcept _).bind fun _ => ?_
  exact (v.isQuiet_facts _).bind fun _ => v.isQuiet_distribution.bind fun _ => isQuiet_pure _

theorem learn_eq_ok {v : View} {s : Snapshot} (h : v.learn.outcome = .ok s) :
    v.boot.outcome = .ok s.boot ∧
      s = assemble s.boot s.uuid s.system s.distribution fun _ => .absent := by
  obtain ⟨boot, hboot, h⟩ := outcome_bind_eq_ok.mp h
  obtain ⟨uuid, -, h⟩ := outcome_bind_eq_ok.mp h
  obtain ⟨system, -, h⟩ := outcome_bind_eq_ok.mp h
  obtain ⟨distribution, -, h⟩ := outcome_bind_eq_ok.mp h
  cases h
  exact ⟨hboot, rfl⟩

theorem readText_of_holdsNull {v : View} {hostPath : String}
    (h : (v.files.below hostPath).holdsNull = true) : v.readText hostPath = .error .nullInPath := by
  unfold readText readBytes
  rw [if_pos h]
  rfl

theorem readText_of_not_holdsNull {v : View} {hostPath : String}
    (h : ¬ (v.files.below hostPath).holdsNull = true) :
    (∃ s, v.readText hostPath = .ok s) ∨
      ∃ e, v.readText hostPath = .error e ∧ e.isSystem = true := by
  unfold readText readBytes
  rw [if_neg h]
  cases v.host.files.read (v.files.below hostPath) with
  | ok bytes => exact .inl ⟨_, rfl⟩
  | error failure =>
    refine .inr ⟨_, rfl, ?_⟩
    cases failure <;> rfl

theorem exists_orDefault_readText {v : View} {hostPath : String}
    (h : ¬ (v.files.below hostPath).holdsNull = true) {α : Type} (f : List Char → α)
    (source note : String) (default : α) :
    ∃ a, (orDefault Fault.isSystem source note default ((v.readText hostPath).map f)).outcome =
      .ok a := by
  rcases readText_of_not_holdsNull h with ⟨s, hs⟩ | ⟨e, hread, he⟩
  · exact ⟨f s, outcome_orDefault_of_ok (by rw [hs]; rfl)⟩
  · exact ⟨default, outcome_orDefault_of_isForgiven (by rw [hread]; rfl) he⟩

/-- Only the root decides whether a host path can be asked for. -/
theorem holdsNull_below (root : Path) (hostPath : String)
    (h : (Path.components hostPath.toList).any (fun part => part.toList.contains '\x00') = false) :
    (root.below hostPath).holdsNull = root.holdsNull := by
  simp only [Path.holdsNull, Path.below, List.any_append]
  rw [h, Bool.or_false]

theorem exists_mounts_of_boot {v : View} {boot : Boot} (h : v.boot.outcome = .ok boot) :
    ∃ mounts, v.mounts.outcome = .ok mounts := by
  have hroot : ¬ v.files.holdsNull = true := by
    intro hnull
    have hread : v.readText commandLinePath = .error .nullInPath :=
      readText_of_holdsNull (by rwa [holdsNull_below _ _ (by decide)])
    unfold View.boot readBoot at h
    rw [hread] at h
    cases h
  rw [← holdsNull_below _ mountsPath (by decide)] at hroot
  exact exists_orDefault_readText hroot _ _ _ _

end View

/-- The same host without devices and with other tools. -/
def Host.bare (h : Host) (tool : List String → Except Failure ToolResult) : Host :=
  { h with devices := .ok [], tool := tool }

namespace View

def bare (v : View) (tool : List String → Except Failure ToolResult) : View :=
  { v with host := v.host.bare tool }

/-- Neither the devices nor the tools matter to what is learnt before them. -/
theorem learn_with (v : View) (devices : Except Failure (List Device))
    (tool : List String → Except Failure ToolResult) :
    learn { v with host := { v.host with devices := devices, tool := tool } } = v.learn := rfl

/-- Where devices cannot be listed, no command is run and what was learnt comes with the fault. -/
theorem locate_of_unlisted {v : View} {f : Failure} (h : v.host.devices = .error f)
    (hf : f.family = .library ∨ f.isSystem = true) (learnt : Snapshot) :
    (v.locate learnt).IsQuiet ∧
      (v.locate learnt).outcome = .error (.enumeration f (some learnt)) := by
  have hdevices : v.devices = .error (.enumeration f none) := by
    unfold devices
    rw [h]
    rcases hf with hf | hf <;> simp [hf]
  have hdisks : (v.disksOr learnt).outcome = .error (.enumeration f (some learnt)) := by
    unfold disksOr disks
    rw [hdevices]
    rfl
  unfold locate
  constructor
  · rw [IsQuiet, calls_bind_of_error hdisks]
    exact v.isQuiet_disksOr learnt
  · rw [bind_of_error hdisks]

theorem outcome_resolve_of_failing {v : View}
    (htool : ∀ command, ∃ r, v.host.tool command = .ok r ∧ r.status ≠ 0) (role : Role) :
    (v.resolve role []).outcome = .ok .absent := by
  have hnone : (Disk.labelled role.label []).getLast? = none := rfl
  by_cases hv : role.mayBeVolume = true
  · obtain ⟨r, hr, hstatus⟩ := htool ("lsblk" :: lsblkArguments role.label)
    rw [resolve_of_volume hnone hv]
    unfold volumeState lsblk
    rw [outcome_bind_of_ok (outcome_ask_of_failed hr hstatus)]
    rfl
  · exact resolve_of_none hnone (Bool.not_eq_true _ ▸ hv)

theorem outcome_locate_of_bare {v : View} (hdevices : v.host.devices = .ok [])
    (htool : ∀ command, ∃ r, v.host.tool command = .ok r ∧ r.status ≠ 0) {learnt : Snapshot}
    (hlearnt : v.learn.outcome = .ok learnt) : (v.locate learnt).outcome = .ok learnt := by
  obtain ⟨hboot, habsent⟩ := learn_eq_ok hlearnt
  have hdisks : (v.disksOr learnt).outcome = .ok [] := by
    obtain ⟨mounts, hmounts⟩ := exists_mounts_of_boot hboot
    have hlisted : Disk.listed [] mounts = [] := by
      simp [Disk.listed, Disk.names, Disk.byName]
    rw [disksOr_eq_ok_iff, disks_of_devices (devices_of_ok hdevices), outcome_bind_of_ok hmounts,
      Disk.outcome_ofDevices, hlisted]
  have hrole := outcome_resolve_of_failing htool
  unfold locate
  rw [outcome_bind_of_ok hdisks, outcome_bind_of_ok (hrole .persistent),
    outcome_bind_of_ok (hrole .recovery), outcome_bind_of_ok (hrole .oem),
    outcome_bind_of_ok (hrole .state), outcome_bind_of_ok (outcome_debug _ _), outcome_pure,
    Except.ok.injEq]
  rw [habsent]
  rfl

/-- A snapshot of a host whose devices cannot be listed fails as early as that of the bare host, or
it runs no command and keeps the snapshot of the bare host. -/
theorem snapshot_of_unlisted {v : View} {f : Failure} (h : v.host.devices = .error f)
    (hf : f.family = .library ∨ f.isSystem = true)
    {tool : List String → Except Failure ToolResult}
    (htool : ∀ command, ∃ r, tool command = .ok r ∧ r.status ≠ 0) :
    (∃ e, v.learn.outcome = .error e ∧ v.snapshot.outcome = .error e ∧
      (v.bare tool).snapshot.outcome = .error e) ∨
    ∃ s, v.snapshot.calls = [] ∧ v.snapshot.outcome = .error (.enumeration f (some s)) ∧
      (v.bare tool).snapshot.outcome = .ok s := by
  have hlearn : (v.bare tool).learn = v.learn := v.learn_with (.ok []) tool
  rw [snapshot_eq_bind, snapshot_eq_bind, hlearn]
  cases hlearnt : v.learn.outcome with
  | error e =>
    rw [bind_of_error hlearnt, bind_of_error hlearnt]
    exact .inl ⟨e, rfl, rfl, rfl⟩
  | ok learnt =>
    obtain ⟨hquiet, hfault⟩ := locate_of_unlisted h hf learnt
    refine .inr ⟨learnt, ?_, ?_, ?_⟩
    · rw [calls_bind_of_ok hlearnt, v.isQuiet_learn, hquiet, List.append_nil]
    · rw [outcome_bind_of_ok hlearnt, hfault]
    · rw [outcome_bind_of_ok hlearnt]
      exact outcome_locate_of_bare rfl htool hlearnt

end View

namespace CommandLine

theorem outcome_snapshotOrLearnt (v : View) : (snapshotOrLearnt v).outcome =
    match v.snapshot.outcome with
    | .error (.enumeration _ (some learnt)) => .ok learnt
    | outcome => outcome := by
  unfold snapshotOrLearnt
  cases h : v.snapshot.outcome with
  | ok s => rw [tryCatch_of_ok h]
  | error e =>
    rw [tryCatch_of_error h]
    cases e with
    | enumeration cause learnt => cases learnt <;> rfl
    | _ => rfl

/-- The part of a report that does not depend on the log. -/
def answer (r : Report) : String × Nat := (r.output, r.status)

theorem outcome_report_congr {a : Arguments} {host host' : Host}
    (h : (snapshotOrLearnt (View.ofRoot host a.hostRoot)).outcome =
      (snapshotOrLearnt (View.ofRoot host' a.hostRoot)).outcome) :
    (a.report host).outcome.map answer = (a.report host').outcome.map answer := by
  have hlog (x : Traced Report) (log : List Event → String) :
      (x.outcome.map fun r => { r with errors := log x.events ++ r.errors }).map answer =
        x.outcome.map answer := by
    cases x.outcome <;> rfl
  unfold Arguments.report
  dsimp only
  rw [hlog, hlog, outcome_bind_congr h]

/-- A host whose devices cannot be listed, seen from anywhere, is as good as one without devices and
with failing tools: either nothing at all is learnt of both, or what is kept of the one is the
snapshot of the other. The program answers every command line about both in the same way. -/
theorem run_of_unlisted {host : Host} {f : Failure} (h : host.devices = .error f)
    (hf : f.family = .library ∨ f.isSystem = true)
    {tool : List String → Except Failure ToolResult}
    (htool : ∀ command, ∃ r, tool command = .ok r ∧ r.status ≠ 0) :
    (∀ v : View, v.host = host →
      (∃ e, v.learn.outcome = .error e ∧ v.snapshot.outcome = .error e ∧
        (v.bare tool).snapshot.outcome = .error e) ∨
      ∃ s, v.snapshot.calls = [] ∧ v.snapshot.outcome = .error (.enumeration f (some s)) ∧
        (v.bare tool).snapshot.outcome = .ok s) ∧
    ∀ arguments, (run host arguments).outcome.map answer =
      (run (host.bare tool) arguments).outcome.map answer := by
  constructor
  · rintro v rfl
    exact View.snapshot_of_unlisted h hf htool
  · intro arguments
    have henvironment : (host.bare tool).environment = host.environment := rfl
    unfold run
    rw [henvironment]
    cases Arguments.ofList host.environment.hostRoot arguments with
    | error e => rfl
    | ok a =>
      apply outcome_report_congr
      have hbare : View.ofRoot (host.bare tool) a.hostRoot =
          (View.ofRoot host a.hostRoot).bare tool := rfl
      have hview : (View.ofRoot host a.hostRoot).host.devices = .error f := h
      rw [hbare, outcome_snapshotOrLearnt, outcome_snapshotOrLearnt]
      rcases View.snapshot_of_unlisted hview hf htool with ⟨e, -, he, he'⟩ | ⟨s, -, hs, hs'⟩
      · rw [he, he']
      · rw [hs, hs']

def unlistedSample : Host :=
  { View.sample.host with devices := .error ⟨"ImportError", .library, "no library"⟩ }

theorem run_of_unlistedSample :
    (∃ f, unlistedSample.devices = .error f ∧ f.family = .library ∧
      ∃ s, (View.ofRoot unlistedSample .slash).snapshot.outcome = .error (.enumeration f (some s)) ∧
        ((View.ofRoot unlistedSample .slash).bare fun _ => .ok ⟨"", "", 1⟩).snapshot.outcome =
          .ok s) ∧
    (run unlistedSample ["get", "oem.found"]).outcome.map answer =
      (run (unlistedSample.bare fun _ => .ok ⟨"", "", 1⟩)
        ["get", "oem.found"]).outcome.map answer := by
  obtain ⟨hviews, hrun⟩ := @run_of_unlisted unlistedSample _ rfl (.inl rfl)
    (fun _ => .ok ⟨"", "", 1⟩) fun _ => ⟨_, rfl, by decide⟩
  constructor
  · refine ⟨_, rfl, rfl, ?_⟩
    -- The first case does not arise, since all else is learnt of the sample host.
    rcases hviews (View.ofRoot unlistedSample .slash) rfl with ⟨e, he, -⟩ | ⟨s, -, hs, hs'⟩
    · have hlearn : (View.ofRoot unlistedSample .slash).learn = View.sample.learn :=
        View.sample.learn_with unlistedSample.devices unlistedSample.tool
      obtain ⟨s, hs⟩ := View.snapshot_sample
      rw [View.snapshot_eq_bind] at hs
      obtain ⟨learnt, hlearnt, -⟩ := outcome_bind_eq_ok.mp hs
      rw [hlearn, hlearnt] at he
      cases he
    · exact ⟨s, hs, hs'⟩
  · exact hrun ["get", "oem.found"]

end CommandLine

end HostSnapshot
