import HostSnapshot.Proofs.Discovery.Agreement
import HostSnapshot.Proofs.Text.Utf8

namespace HostSnapshot

open Traced

/-- The ways in which running a command fails: the system does not start it, or it ends with a
status other than zero, whatever text it prints, and whatever bytes. -/
inductive ToolFailed : Except Failure ToolResult → Prop
  | refused {f : Failure} (h : f.isSystem = true) : ToolFailed (.error f)
  | ended {r : ToolResult} (h : r.status ≠ 0) : ToolFailed (.ok r)
  | printed {output errors : List UInt8} {status : Int} {x : Except Failure ToolResult}
      (h : status ≠ 0) (hx : x = ToolResult.ofBytes output errors status) : ToolFailed x

namespace ToolResult

variable {bytes output errors : List UInt8} {status : Int}

theorem exists_text_eq_ok_iff : (∃ s, text bytes = .ok s) ↔ Text.Utf8.IsValid bytes := by
  unfold text
  constructor
  · rintro ⟨s, h⟩
    cases hs : Text.Utf8.strict bytes with
    | ok cs => exact ⟨cs, Text.Utf8.strict_eq_ok_iff.mp hs⟩
    | error u =>
      rw [hs] at h
      cases h
  · rintro ⟨cs, h⟩
    rw [Text.Utf8.strict_eq_ok_iff.mpr h]
    exact ⟨_, rfl⟩

theorem family_of_text {f : Failure} (h : text bytes = .error f) : f.family = .other := by
  unfold text at h
  split at h
  · cases h
  · cases h
    rfl

theorem status_of_ofBytes {r : ToolResult} (h : ofBytes output errors status = .ok r) :
    r.status = status := by
  unfold ofBytes at h
  cases ho : text output with
  | error f =>
    rw [ho] at h
    cases h
  | ok o =>
    cases he : text errors with
    | error f =>
      rw [ho, he] at h
      cases h
    | ok e =>
      rw [ho, he] at h
      cases h
      rfl

/-- What a tool prints comes to a result exactly if both its texts are UTF-8. -/
theorem ofBytes_cases (output errors : List UInt8) (status : Int) :
    (Text.Utf8.IsValid output ∧ Text.Utf8.IsValid errors ∧
      ∃ r, ofBytes output errors status = .ok r) ∨
    ¬ (Text.Utf8.IsValid output ∧ Text.Utf8.IsValid errors) ∧
      ∃ f, ofBytes output errors status = .error f ∧ f.family ≠ .missingFile := by
  have hother {f : Failure} (hf : f.family = .other) : f.family ≠ .missingFile := by
    rw [hf]
    decide
  simp only [← exists_text_eq_ok_iff]
  unfold ofBytes
  cases ho : text output with
  | error f =>
    refine .inr ⟨?_, f, rfl, hother (family_of_text ho)⟩
    rintro ⟨⟨s, hs⟩, -⟩
    cases hs
  | ok o =>
    cases he : text errors with
    | error f =>
      refine .inr ⟨?_, f, rfl, hother (family_of_text he)⟩
      rintro ⟨-, s, hs⟩
      cases hs
    | ok e => exact .inl ⟨⟨o, rfl⟩, ⟨e, rfl⟩, _, rfl⟩

end ToolResult

theorem ToolFailed.status_ne_zero {r : ToolResult} (h : ToolFailed (.ok r)) : r.status ≠ 0 := by
  cases h with
  | ended h => exact h
  | printed h hx => exact ToolResult.status_of_ofBytes hx.symm ▸ h

namespace View

/-- The same view of a host on which every command ends with status one and prints nothing. -/
def mute (v : View) : View :=
  { v with host := { v.host with tool := fun _ => .ok ⟨"", "", 1⟩ } }

variable {v : View} {role : Role} {disks : List Disk}

section Ask

variable {α : Type} {tool label : String} {arguments : List String} {things : String}
  {read? : String → Option (List α)} {f : Failure}

theorem outcome_run_of_missing (h : v.host.tool (tool :: arguments) = .error f)
    (hf : f.family = .missingFile) : (v.run tool arguments).outcome = .ok .notFound := by
  unfold run
  rw [outcome_bind_of_ok (outcome_debug _ _), outcome_bind_of_ok rfl, h]
  dsimp only
  rw [if_pos hf, outcome_bind_of_ok (outcome_debug _ _)]
  rfl

theorem outcome_run_of_refused (h : v.host.tool (tool :: arguments) = .error f)
    (hf : f.family ≠ .missingFile) :
    (v.run tool arguments).outcome = .error (.outside f) := by
  unfold run
  rw [outcome_bind_of_ok (outcome_debug _ _), outcome_bind_of_ok rfl, h]
  dsimp only
  rw [if_neg hf]
  rfl

theorem outcome_ask_of_refused (h : v.host.tool (tool :: arguments) = .error f)
    (hf : f.family ≠ .missingFile) :
    (v.ask tool label arguments things read?).outcome = .error (.outside f) := by
  unfold ask
  rw [bind_of_error (outcome_run_of_refused h hf)]

theorem outcome_ask_of_toolFailed (h : ToolFailed (v.host.tool (tool :: arguments)))
    (hmissing : ∀ f, v.host.tool (tool :: arguments) = .error f → f.family = .missingFile) :
    (v.ask tool label arguments things read?).outcome = .ok none := by
  cases hr : v.host.tool (tool :: arguments) with
  | ok r =>
    rw [hr] at h
    exact outcome_ask_of_failed hr h.status_ne_zero
  | error f =>
    rw [outcome_ask (outcome_run_of_missing hr (hmissing f hr))]
    rfl

/-- What follows a question to a tool that fails goes on with nothing, or does not go on. -/
theorem outcome_bind_ask_cases {β : Type} (next : Option α → Traced β) :
    (ToolFailed (v.host.tool (tool :: arguments)) →
      (∀ f, v.host.tool (tool :: arguments) = .error f → f.family = .missingFile) →
      (v.ask tool label arguments things read? >>= next).outcome = (next none).outcome) ∧
    ∀ f, v.host.tool (tool :: arguments) = .error f → f.family ≠ .missingFile →
      (v.ask tool label arguments things read? >>= next).outcome = .error (.outside f) := by
  constructor
  · intro hfailed hmissing
    rw [outcome_bind_of_ok (outcome_ask_of_toolFailed hfailed hmissing)]
  · intro f h hf
    rw [bind_of_error (outcome_ask_of_refused h hf)]

end Ask

/-- What is known of the partition of a role without any tool. -/
def untold (role : Role) (disks : List Disk) : Except Fault PartitionState :=
  match (Disk.labelled role.label disks).getLast? with
  | some p => p.state p.mountPoint p.readOnly
  | none => .ok .absent

theorem untold_eq_ok (hsize : ∀ p ∈ Disk.allPartitions disks, 0 ≤ p.size) (role : Role) :
    ∃ state, untold role disks = .ok state := by
  unfold untold
  cases hp : (Disk.labelled role.label disks).getLast? with
  | some p =>
    have hmem := (List.mem_filter.mp (List.mem_of_getLast? hp)).1
    obtain ⟨found, hfound, -⟩ := Partition.state_eq_found (hsize p hmem) p.mountPoint p.readOnly
    exact ⟨_, hfound⟩
  | none => exact ⟨_, rfl⟩

/-- A role runs no tool and has what is known without one, or it runs one tool. Where that tool ends
badly or is not there, what is known without it stays. Where it cannot be started, the failure is
all that comes of the role. -/
theorem resolve_cases (v : View) (role : Role) (disks : List Disk) :
    ((v.resolve role disks).calls = [] ∧ (v.resolve role disks).outcome = untold role disks) ∨
    ∃ command, (v.resolve role disks).calls = [(command, v.directory)] ∧
      (ToolFailed (v.host.tool command) →
        (∀ f, v.host.tool command = .error f → f.family = .missingFile) →
        (v.resolve role disks).outcome = untold role disks) ∧
      ∀ f, v.host.tool command = .error f → f.family ≠ .missingFile →
        (v.resolve role disks).outcome = .error (.outside f) := by
  rw [calls_resolve]
  unfold untold
  -- A listed partition asks `findmnt`, one that is not listed asks `lsblk`.
  cases hp : (Disk.labelled role.label disks).getLast? with
  | some p =>
    simp only [calls_partitionState]
    rw [resolve_of_some hp, partitionState_eq]
    by_cases hw : p.wantsMount = true
    · simp only [if_pos hw]
      exact .inr ⟨_, rfl, outcome_bind_ask_cases (stateWith p)⟩
    · simp only [if_neg hw]
      exact .inl ⟨trivial, rfl⟩
  | none =>
    simp only [calls_volumeState]
    by_cases hv : role.mayBeVolume = true
    · rw [resolve_of_volume hp hv]
      simp only [if_pos hv]
      exact .inr ⟨_, rfl, outcome_bind_ask_cases _⟩
    · simp only [if_neg hv]
      exact .inl ⟨trivial, resolve_of_none hp (Bool.not_eq_true _ ▸ hv)⟩

theorem outcome_resolve_of_untold
    (hfailed : ∀ call ∈ (v.resolve role disks).calls, ToolFailed (v.host.tool call.1))
    (hmissing : ∀ call ∈ (v.resolve role disks).calls, ∀ f, v.host.tool call.1 = .error f →
      f.family = .missingFile) :
    (v.resolve role disks).outcome = untold role disks := by
  rcases resolve_cases v role disks with ⟨-, h⟩ | ⟨command, hcalls, h, -⟩
  · exact h
  · rw [hcalls] at hfailed hmissing
    exact h (hfailed _ (List.mem_singleton_self _)) (hmissing _ (List.mem_singleton_self _))

theorem outcome_resolve_of_read
    (hfailed : ∀ call ∈ (v.resolve role disks).calls, ToolFailed (v.host.tool call.1))
    {call : List String × String} (hcall : call ∈ (v.resolve role disks).calls) {r : ToolResult}
    (h : v.host.tool call.1 = .ok r) : (v.resolve role disks).outcome = untold role disks := by
  apply outcome_resolve_of_untold hfailed
  intro call' hcall' f hf
  rcases resolve_cases v role disks with ⟨hcalls, -⟩ | ⟨command, hcalls, -⟩
  · rw [hcalls] at hcall
    cases hcall
  · rw [hcalls, List.mem_singleton] at hcall hcall'
    rw [hcall'] at hf
    rw [hcall, hf] at h
    cases h

/-- If the tool that a role takes is there but cannot be started, or not be read, this is the end of
it. -/
theorem outcome_resolve_of_refused {call : List String × String}
    (hcall : call ∈ (v.resolve role disks).calls) {f : Failure}
    (h : v.host.tool call.1 = .error f) (hf : f.family ≠ .missingFile) :
    (v.resolve role disks).outcome = .error (.outside f) := by
  rcases resolve_cases v role disks with ⟨hcalls, -⟩ | ⟨command, hcalls, -, hrefused⟩
  · rw [hcalls] at hcall
    cases hcall
  · rw [hcalls, List.mem_singleton] at hcall
    subst hcall
    exact hrefused f h hf

/-- A role whose tool fails has the state that it has when the tool ends with status one and prints
nothing, exactly if the tool is not there, or was started and what it printed could be read; and
that can be read exactly if it is UTF-8. Otherwise the failure is all that comes of the role. -/
theorem resolve_of_toolFailed (hsize : ∀ p ∈ Disk.allPartitions disks, 0 ≤ p.size)
    (hfailed : ∀ call ∈ (v.resolve role disks).calls, ToolFailed (v.host.tool call.1)) :
    ((∃ state, (v.resolve role disks).outcome = .ok state ∧
        (v.mute.resolve role disks).outcome = .ok state) ↔
      ∀ call ∈ (v.resolve role disks).calls, ∀ f, v.host.tool call.1 = .error f →
        f.family = .missingFile) ∧
    (∃ state, (v.mute.resolve role disks).outcome = .ok state) ∧
    (∀ call ∈ (v.resolve role disks).calls, ∀ f, v.host.tool call.1 = .error f →
      f.family ≠ .missingFile → (v.resolve role disks).outcome = .error (.outside f)) ∧
    ∀ call ∈ (v.resolve role disks).calls, ∀ output errors status,
      v.host.tool call.1 = ToolResult.ofBytes output errors status →
      ((∃ state, (v.resolve role disks).outcome = .ok state) ↔
        Text.Utf8.IsValid output ∧ Text.Utf8.IsValid errors) := by
  obtain ⟨state, hstate⟩ := untold_eq_ok hsize role
  -- Without tools the role has what is known of it, and this is what both are compared with.
  have hmute : (v.mute.resolve role disks).outcome = .ok state := by
    rw [outcome_resolve_of_untold, hstate]
    · exact fun _ _ => .ended (by decide)
    · intro call _ f hf
      cases hf
  refine ⟨⟨?_, ?_⟩, ⟨state, hmute⟩, fun call hcall f => outcome_resolve_of_refused hcall, ?_⟩
  · rintro ⟨state', hstate', -⟩ call hcall f hf
    apply Classical.byContradiction
    intro hfamily
    rw [outcome_resolve_of_refused hcall hf hfamily] at hstate'
    cases hstate'
  · intro hmissing
    exact ⟨state, (outcome_resolve_of_untold hfailed hmissing).trans hstate, hmute⟩
  · intro call hcall output errors status htool
    rcases ToolResult.ofBytes_cases output errors status with
      ⟨ho, he, r, hr⟩ | ⟨hinvalid, f, hf, hfamily⟩
    · refine iff_of_true ⟨state, ?_⟩ ⟨ho, he⟩
      rw [← hstate]
      exact outcome_resolve_of_read hfailed hcall (htool.trans hr)
    · refine iff_of_false ?_ hinvalid
      rintro ⟨state', hstate'⟩
      rw [outcome_resolve_of_refused hcall (htool.trans hf) hfamily] at hstate'
      cases hstate'

theorem sample_resolve_of_toolFailed :
    (sample.resolve .oem Disk.samples).calls =
      [(["findmnt", "/dev/disk/by-label/COS_OEM", "-f", "-J", "-o", "TARGET,FS-OPTIONS"], "/")] ∧
    ∃ state, (sample.resolve .oem Disk.samples).outcome = .ok state ∧
      (sample.mute.resolve .oem Disk.samples).outcome = .ok state := by
  have hmissing : ∀ command f, sample.host.tool command = .error f → f.family = .missingFile := by
    rintro command f ⟨⟩
    rfl
  have hsize : ∀ p ∈ Disk.allPartitions Disk.samples, 0 ≤ p.size := by decide
  have hfailed : ∀ call ∈ (sample.resolve .oem Disk.samples).calls,
      ToolFailed (sample.host.tool call.1) := fun _ _ => .refused rfl
  exact ⟨rfl, (resolve_of_toolFailed hsize hfailed).1.mpr fun call _ => hmissing call.1⟩

def withTool (tool : List String → Except Failure ToolResult) : View :=
  { sample with host := { sample.host with tool := tool } }

def denied : View :=
  withTool fun _ => .error ⟨"PermissionError", .system, "[Errno 13] Permission denied"⟩

/-- Every command ends with status one after a byte that is not UTF-8. -/
def garbled : View := withTool fun _ => ToolResult.ofBytes [] [0xff] 1

theorem resolve_denied : (∀ command, ToolFailed (denied.host.tool command)) ∧
    (denied.resolve .recovery []).outcome =
      .error (.outside ⟨"PermissionError", .system, "[Errno 13] Permission denied"⟩) ∧
    (denied.mute.resolve .recovery []).outcome = .ok .absent ∧
    (∀ command, ToolFailed (garbled.host.tool command)) ∧
    (∃ f, (garbled.resolve .recovery []).outcome = .error (.outside f) ∧
      f.name = "UnicodeDecodeError") ∧
    (garbled.mute.resolve .recovery []).outcome = .ok .absent :=
  ⟨fun _ => .refused rfl, rfl, rfl, fun _ => .printed (by decide : (1 : Int) ≠ 0) rfl,
    ⟨_, rfl, rfl⟩, rfl⟩

end View

end HostSnapshot
