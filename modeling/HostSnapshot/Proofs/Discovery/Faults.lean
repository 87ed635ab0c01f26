import HostSnapshot.Proofs.Discovery.Failures

namespace HostSnapshot

open Traced

def Fault.negativeSize (size : Int) : Fault := .invalid [⟨.negative, ["size_bytes"], .int size⟩]

theorem Partition.state_eq_error_iff {p : Partition} {point : String} {readOnly : Bool}
    {e : Fault} : p.state point readOnly = .error e ↔ p.size < 0 ∧ e = .negativeSize p.size := by
  unfold state
  split
  · next hsize =>
    rw [Except.error.injEq, eq_comm]
    exact (and_iff_right hsize).symm
  · next hsize => simp [hsize]

namespace View

variable {v : View} {role : Role} {disks : List Disk} {e : Fault}

section Ask

variable {α : Type} {tool label : String} {arguments : List String} {things : String}
  {read? : String → Option (List α)}

theorem run_eq_error (h : (v.run tool arguments).outcome = .error e) :
    ∃ f, v.host.tool (tool :: arguments) = .error f ∧ f.family ≠ .missingFile ∧
      e = .outside f := by
  cases hr : v.host.tool (tool :: arguments) with
  | ok r =>
    rw [outcome_run_of_ok hr] at h
    cases h
  | error f =>
    by_cases hf : f.family = .missingFile
    · rw [outcome_run_of_missing hr hf] at h
      cases h
    · rw [outcome_run_of_refused hr hf, Except.error.injEq] at h
      exact ⟨f, rfl, hf, h.symm⟩

theorem ask_eq_error (h : (v.ask tool label arguments things read?).outcome = .error e) :
    ∃ f, v.host.tool (tool :: arguments) = .error f ∧ f.family ≠ .missingFile ∧
      e = .outside f := by
  cases hr : (v.run tool arguments).outcome with
  | ok r =>
    rw [outcome_ask hr] at h
    cases h
  | error e' =>
    unfold ask at h
    rw [bind_of_error hr, Except.error.injEq] at h
    subst h
    exact run_eq_error hr

end Ask

/-- What `findmnt` adds does not change whether a partition has a state. -/
theorem stateWith_eq_error_iff {p : Partition} {mount : Option FoundMount} :
    (stateWith p mount).outcome = .error e ↔ p.size < 0 ∧ e = .negativeSize p.size := by
  cases mount with
  | none => exact Partition.state_eq_error_iff
  | some m =>
    unfold stateWith
    rw [outcome_bind_of_ok (MountOptions.outcome_readOnly _ _)]
    exact Partition.state_eq_error_iff

/-- The two ways in which a role comes to a fault. -/
theorem resolve_eq_error (h : (v.resolve role disks).outcome = .error e) :
    (∃ call ∈ (v.resolve role disks).calls, ∃ f, v.host.tool call.1 = .error f ∧
      f.family ≠ .missingFile ∧ e = .outside f) ∨
    ∃ p, (Disk.labelled role.label disks).getLast? = some p ∧ p.size < 0 ∧
      e = .negativeSize p.size := by
  rw [calls_resolve]
  cases hp : (Disk.labelled role.label disks).getLast? with
  | some p =>
    have hstate {mount : Option FoundMount} (h : (stateWith p mount).outcome = .error e) :
        ∃ q, some p = some q ∧ q.size < 0 ∧ e = .negativeSize q.size :=
      ⟨p, rfl, stateWith_eq_error_iff.mp h⟩
    rw [resolve_of_some hp, partitionState_eq] at h
    simp only [calls_partitionState]
    by_cases hw : p.wantsMount = true
    · rw [if_pos hw] at h ⊢
      -- Either the tool is refused, or the size is.
      rcases outcome_bind_eq_error.mp h with h | ⟨mount, -, h⟩
      · exact .inl ⟨_, List.mem_singleton_self _, ask_eq_error h⟩
      · exact .inr (hstate h)
    · rw [if_neg hw] at h
      exact .inr (hstate h)
  | none =>
    by_cases hv : role.mayBeVolume = true
    · rw [resolve_of_volume hp hv] at h
      unfold volumeState at h
      simp only [if_pos hv, calls_volumeState]
      rcases outcome_bind_eq_error.mp h with h | ⟨d, -, h⟩
      · exact .inl ⟨_, List.mem_singleton_self _, ask_eq_error h⟩
      · cases d <;> cases h
    · rw [resolve_of_none hp (Bool.not_eq_true _ ▸ hv)] at h
      cases h

theorem outcome_resolve_mute (v : View) (role : Role) (disks : List Disk) :
    (v.mute.resolve role disks).outcome = untold role disks := by
  apply outcome_resolve_of_untold
  · exact fun _ _ => .ended (by decide)
  · intro call _ f hf
    cases hf

/-- A role can come to data that is not valid exactly if the last listed partition with its label
has a negative size. -/
theorem exists_resolve_eq_invalid_iff (role : Role) (disks : List Disk) :
    (∃ (w : View) (issues : List Issue),
      (w.resolve role disks).outcome = .error (.invalid issues)) ↔
    ∃ p, (Disk.labelled role.label disks).getLast? = some p ∧ p.size < 0 := by
  constructor
  · rintro ⟨w, issues, h⟩
    rcases resolve_eq_error h with ⟨_, -, f, -, -, he⟩ | ⟨p, hp, hsize, -⟩
    · cases he
    · exact ⟨p, hp, hsize⟩
  · rintro ⟨p, hp, hsize⟩
    have hinvalid : (sample.mute.resolve role disks).outcome = .error (.negativeSize p.size) := by
      rw [outcome_resolve_mute, untold, hp]
      exact Partition.state_eq_error_iff.mpr ⟨hsize, rfl⟩
    exact ⟨_, _, hinvalid⟩

end View

end HostSnapshot
