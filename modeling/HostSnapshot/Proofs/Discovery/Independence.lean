import HostSnapshot.Proofs.Discovery.Failures
import HostSnapshot.Snapshot.Mapping

namespace HostSnapshot

open Traced

/-- The commands that a role takes, given the last listed partition with its label. -/
def Role.takes (role : Role) : Option Partition → List (List String)
  | some p =>
    if p.wantsMount then ["findmnt" :: findmntArguments p.filesystemLabel] else []
  | none => if role.mayBeVolume then ["lsblk" :: lsblkArguments role.label] else []

namespace View

/-- Whether the tools of two hosts answer alike about a label, be it that they fail alike. -/
structure AnswerAlike (v w : View) (label : String) : Prop where
  findmnt : v.host.tool ("findmnt" :: findmntArguments label) =
    w.host.tool ("findmnt" :: findmntArguments label)
  lsblk : v.host.tool ("lsblk" :: lsblkArguments label) =
    w.host.tool ("lsblk" :: lsblkArguments label)

variable {v w : View}

section Ask

variable {α : Type} {tool label : String} {arguments : List String} {things : String}
  {read? : String → Option (List α)}

theorem outcome_run_congr
    (h : v.host.tool (tool :: arguments) = w.host.tool (tool :: arguments)) :
    (v.run tool arguments).outcome = (w.run tool arguments).outcome := by
  cases hw : w.host.tool (tool :: arguments) with
  | ok r => rw [outcome_run_of_ok hw, outcome_run_of_ok (h.trans hw)]
  | error f =>
    by_cases hf : f.family = .missingFile
    · rw [outcome_run_of_missing hw hf, outcome_run_of_missing (h.trans hw) hf]
    · rw [outcome_run_of_refused hw hf, outcome_run_of_refused (h.trans hw) hf]

theorem outcome_ask_congr
    (h : v.host.tool (tool :: arguments) = w.host.tool (tool :: arguments)) :
    (v.ask tool label arguments things read?).outcome =
      (w.ask tool label arguments things read?).outcome := by
  unfold ask
  exact outcome_bind_congr (outcome_run_congr h) _

end Ask

theorem AnswerAlike.outcome_partitionState {p : Partition}
    (h : AnswerAlike v w p.filesystemLabel) :
    (v.partitionState p).outcome = (w.partitionState p).outcome := by
  rw [partitionState_eq, partitionState_eq]
  by_cases hp : p.wantsMount = true
  · rw [if_pos hp, if_pos hp]
    apply outcome_bind_congr
    exact outcome_ask_congr h.findmnt
  · rw [if_neg hp, if_neg hp]

theorem AnswerAlike.outcome_volumeState {label : String} (h : AnswerAlike v w label) :
    (v.volumeState label).outcome = (w.volumeState label).outcome := by
  unfold volumeState
  apply outcome_bind_congr
  exact outcome_ask_congr h.lsblk

variable {role : Role} {disks disks' : List Disk}

theorem AnswerAlike.outcome_resolve (h : AnswerAlike v w role.label)
    (hlast : (Disk.labelled role.label disks).getLast? =
      (Disk.labelled role.label disks').getLast?) :
    (v.resolve role disks).outcome = (w.resolve role disks').outcome := by
  cases hp : (Disk.labelled role.label disks').getLast? with
  | some p =>
    -- `findmnt` is asked about the label of the partition, which is that of the role.
    rw [← filesystemLabel_of_getLast? hp] at h
    rw [resolve_of_some hp, resolve_of_some (hlast.trans hp)]
    exact h.outcome_partitionState
  | none =>
    by_cases hv : role.mayBeVolume = true
    · rw [resolve_of_volume hp hv, resolve_of_volume (hlast.trans hp) hv]
      exact h.outcome_volumeState
    · rw [Bool.not_eq_true] at hv
      rw [resolve_of_none hp hv, resolve_of_none (hlast.trans hp) hv]

theorem calls_resolve_eq_takes (v : View) (role : Role) (disks : List Disk) :
    (v.resolve role disks).calls =
      (role.takes (Disk.labelled role.label disks).getLast?).map (·, v.directory) := by
  rw [calls_resolve]
  cases (Disk.labelled role.label disks).getLast? with
  | some p =>
    simp only [calls_partitionState, Role.takes]
    split <;> rfl
  | none =>
    simp only [calls_volumeState, Role.takes]
    split <;> rfl

/-- The last listed partition with the label of a role and the answers about that label determine
what comes of the role and which commands it runs. A snapshot has that of each role in the field of
the role, under its name. -/
theorem resolve_independent :
    (∀ (v w : View) (role : Role) (disks disks' : List Disk),
      (Disk.labelled role.label disks).getLast? = (Disk.labelled role.label disks').getLast? →
      AnswerAlike v w role.label →
      (v.resolve role disks).outcome = (w.resolve role disks').outcome ∧
      ∃ commands : List (List String),
        (v.resolve role disks).calls = commands.map (·, v.directory) ∧
        (w.resolve role disks').calls = commands.map (·, w.directory)) ∧
    ∀ (v : View) (s : Snapshot), v.snapshot.outcome = .ok s →
      ∃ disks, v.disks.outcome = .ok disks ∧ ∀ role : Role,
        (v.resolve role disks).outcome = .ok (s.partition role) ∧
        Json.Members.find? s.mapping role.name = some (.obj (s.partition role).mapping) := by
  constructor
  · intro v w role disks disks' hlast h
    refine ⟨h.outcome_resolve hlast, role.takes (Disk.labelled role.label disks).getLast?, ?_, ?_⟩
    · exact calls_resolve_eq_takes v role disks
    · rw [hlast]
      exact calls_resolve_eq_takes w role disks'
  · intro v s hs
    obtain ⟨disks, hdisks, hresolve, -⟩ := snapshot_eq_ok hs
    refine ⟨disks, hdisks, fun role => ⟨hresolve role, ?_⟩⟩
    cases role <;> rfl

/-- Another disk, whose last partition is the one with which the sample disks end. -/
def otherDisks : List Disk :=
  [⟨"vda", [⟨"vda1", "", "", 512, "", "COS_OEM", "/elsewhere", true⟩,
    ⟨"vda2", "", "", 512, "", "COS_RECOVERY", "", false⟩,
    ⟨"sdb1", "", "", 1048576, "", "COS_OEM", "", false⟩]⟩]

def otherTools : View :=
  { sample with
    host := { sample.host with
      tool := fun command =>
        if labelFile Role.oem.label ∈ command then sample.host.tool command
        else .ok ⟨"\x7b\"filesystems\": [\x7b\"target\": \"/x\"\x7d]\x7d", "", 0⟩ }
    directory := "/elsewhere" }

theorem sample_resolve_independent :
    (Disk.labelled Role.oem.label Disk.samples).getLast? =
      (Disk.labelled Role.oem.label otherDisks).getLast? ∧
    AnswerAlike sample otherTools Role.oem.label ∧
    (sample.resolve .oem Disk.samples).outcome = (otherTools.resolve .oem otherDisks).outcome ∧
    ∃ s disks, sample.snapshot.outcome = .ok s ∧ sample.disks.outcome = .ok disks ∧
      (sample.resolve .oem disks).outcome = .ok s.oem := by
  obtain ⟨hindependent, hfields⟩ := resolve_independent
  have hlast : (Disk.labelled Role.oem.label Disk.samples).getLast? =
      (Disk.labelled Role.oem.label otherDisks).getLast? := by decide
  have halike : AnswerAlike sample otherTools Role.oem.label := ⟨rfl, rfl⟩
  obtain ⟨s, hs⟩ := snapshot_sample
  obtain ⟨disks, hdisks, hrole⟩ := hfields sample s hs
  exact ⟨hlast, halike, (hindependent _ _ .oem _ _ hlast halike).1, s, disks, hs, hdisks,
    (hrole .oem).1⟩

end View

end HostSnapshot
