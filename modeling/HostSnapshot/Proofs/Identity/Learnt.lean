import HostSnapshot.Proofs.Discovery.Faults
import HostSnapshot.Proofs.Facts.Sections

namespace HostSnapshot

open Traced

/-- The snapshot that a fault keeps. -/
def Fault.learnt? : Fault → Option Snapshot
  | .enumeration _ learnt => learnt
  | _ => none

/-- Whether the environment leaves it to the host what a snapshot is identified by. -/
def Environment.IsSilent (e : Environment) : Prop := e.uuid = none ∨ e.uuid = some ""

namespace View

/-- Whether a snapshot is taken of a host, be it returned or kept by a fault. -/
def Takes (v : View) (s : Snapshot) : Prop :=
  v.snapshot.outcome = .ok s ∨ ∃ e, v.snapshot.outcome = .error e ∧ e.learnt? = some s

def machineId (v : View) : String :=
  String.ofList (Text.firstLine (v.textOrEmpty machineIdPath))

/-- The host name in an identifier. -/
def identityName (v : View) (live : Bool) : String :=
  v.orHostname live (String.ofList (Text.firstLine (v.textOrEmpty hostnamePath)))

/-- The host name among the facts. -/
def nodeName (v : View) (live : Bool) : String :=
  let name := v.orHostname live (String.ofList (Text.strip (v.textOrEmpty hostnamePath)))
  String.ofList ((Text.lines name.toList).headD [])

variable {v : View} {e : Fault}

theorem exists_boot (h : ¬ v.files.holdsNull = true) : ∃ boot, v.boot.outcome = .ok boot := by
  rw [← holdsNull_below _ commandLinePath (by decide)] at h
  exact exists_orDefault_readText h _ _ _ _

theorem firstLine_of_not_holdsNull {hostPath : String}
    (h : ¬ (v.files.below hostPath).holdsNull = true) :
    v.firstLine hostPath = .ok (String.ofList (Text.firstLine (v.textOrEmpty hostPath))) := by
  unfold firstLine
  rw [readIfThere_of_not_holdsNull h]
  rfl

/-- The identifier of a host for which the environment has none. -/
def ownIdentity (v : View) (live : Bool) : String :=
  let known := [v.machineId, v.identityName live].filter (· ≠ "")
  if known.isEmpty then v.host.machine.randomUuid else "-".intercalate known

theorem identity_eq (h : ¬ v.files.holdsNull = true) (live : Bool) : v.identity live =
    .ok (match v.host.environment.uuid with
      | none => v.ownIdentity live
      | some uuid => if uuid ≠ "" then uuid else v.ownIdentity live) := by
  have hid : ¬ (v.files.below machineIdPath).holdsNull = true := by
    rwa [holdsNull_below _ _ (by decide)]
  have hname : ¬ (v.files.below hostnamePath).holdsNull = true := by
    rwa [holdsNull_below _ _ (by decide)]
  unfold identity ownIdentity identityName machineId
  rw [firstLine_of_not_holdsNull hid, firstLine_of_not_holdsNull hname]
  simp only [bind, Except.bind, pure, Except.pure]
  cases v.host.environment.uuid with
  | none =>
    dsimp only
    split <;> rfl
  | some uuid =>
    dsimp only
    split
    · rfl
    · split <;> rfl

theorem identity_of_isSilent (h : ¬ v.files.holdsNull = true)
    (hsilent : v.host.environment.IsSilent) (live : Bool) :
    v.identity live = .ok (v.ownIdentity live) := by
  rw [identity_eq h]
  rcases hsilent with huuid | huuid
  · rw [huuid]
  · rw [huuid]
    dsimp only
    rw [if_neg (not_not_intro rfl)]

theorem nodeFacts_eq (h : ¬ v.files.holdsNull = true) (live : Bool) : v.nodeFacts live =
    .ok (.obj [("hostname", .str (v.nodeName live)),
      ("machineid", .str (String.ofList (Text.strip (v.textOrEmpty machineIdPath)))),
      ("timezone", .str v.host.machine.timezone)]) := by
  have hid : ¬ (v.files.below machineIdPath).holdsNull = true := by
    rwa [holdsNull_below _ _ (by decide)]
  have hname : ¬ (v.files.below hostnamePath).holdsNull = true := by
    rwa [holdsNull_below _ _ (by decide)]
  unfold nodeFacts
  rw [fact_of_not_holdsNull hid, fact_of_not_holdsNull hname]
  rfl

theorem exists_releaseOrNote (h : ¬ v.files.holdsNull = true) (key what : String) :
    ∃ text, (v.releaseOrNote key what).outcome = .ok text := by
  rw [← holdsNull_below _ releasePath (by decide)] at h
  unfold releaseOrNote release
  rcases readText_of_not_holdsNull h with ⟨s, hs⟩ | ⟨e, hread, he⟩
  · rw [hs]
    simp only [bind, Except.bind]
    cases (Release.ofText s).preferred? key with
    | some text => exact ⟨text, rfl⟩
    | none => exact ⟨"", rfl⟩
  · have habsence : e.isAbsence = true := by
      cases e <;> first | exact he | cases he
    rw [hread]
    exact ⟨"", outcome_orDefault_of_isForgiven rfl habsence⟩

theorem exists_distribution (h : ¬ v.files.holdsNull = true) :
    ∃ distribution, v.distribution.outcome = .ok distribution := by
  obtain ⟨version, hversion⟩ := exists_releaseOrNote h "VERSION" "version"
  obtain ⟨flavor, hflavor⟩ := exists_releaseOrNote h "FLAVOR" "flavor"
  unfold distribution View.flavor
  rw [outcome_bind_of_ok hversion, outcome_bind_of_ok hflavor]
  exact ⟨_, rfl⟩

theorem exists_learn (h : ¬ v.files.holdsNull = true) (hmemory : v.MemoryIsForgiven)
    (hread : v.processorEntries.AreRead) : ∃ learnt, v.learn.outcome = .ok learnt := by
  obtain ⟨boot, hboot⟩ := exists_boot h
  obtain ⟨facts, hfacts, -⟩ := facts_of_areRead h hmemory hread v.isLive
  obtain ⟨distribution, hdistribution⟩ := exists_distribution h
  unfold learn
  rw [outcome_bind_of_ok hboot, identity_eq h, outcome_bind_of_ok (outcome_ofExcept _),
    outcome_bind_of_ok hfacts, outcome_bind_of_ok hdistribution]
  exact ⟨_, rfl⟩

theorem learnt?_of_facts {live : Bool} (h : (v.facts live).outcome = .error e) :
    e.learnt? = none := by
  by_cases hroot : v.files.holdsNull = true
  · rw [facts_of_holdsNull hroot] at h
    cases h
    rfl
  · by_cases hread : v.processorEntries.AreRead
    · by_cases hmemory : v.MemoryIsForgiven
      · obtain ⟨facts, hfacts, -⟩ := facts_of_areRead hroot hmemory hread live
        rw [hfacts] at h
        cases h
      · obtain ⟨f, hf⟩ := facts_of_not_memoryIsForgiven hroot hmemory hread live
        rw [hf] at h
        cases h
        rfl
    · obtain ⟨cause, hcause⟩ := facts_of_not_areRead hroot hread live
      rw [hcause] at h
      cases h
      rfl

theorem learnt?_of_learn (h : v.learn.outcome = .error e) : e.learnt? = none := by
  by_cases hroot : v.files.holdsNull = true
  · have hboot : v.boot.outcome = .error .nullInPath := by
      rw [← holdsNull_below _ commandLinePath (by decide)] at hroot
      unfold boot readBoot
      rw [readText_of_holdsNull hroot]
      rfl
    unfold learn at h
    rw [bind_of_error hboot] at h
    cases h
    rfl
  · -- Only the facts can be in the way of all the rest.
    obtain ⟨boot, hboot⟩ := exists_boot hroot
    obtain ⟨distribution, hdistribution⟩ := exists_distribution hroot
    have hidentity := identity_eq hroot v.isLive
    unfold learn at h
    rw [outcome_bind_of_ok hboot, hidentity, outcome_bind_of_ok (outcome_ofExcept _),
      outcome_bind_eq_error] at h
    rcases h with h | ⟨facts, -, h⟩
    · exact learnt?_of_facts h
    · rw [outcome_bind_of_ok hdistribution] at h
      cases h

theorem learnt?_of_resolve {role : Role} {disks : List Disk}
    (h : (v.resolve role disks).outcome = .error e) : e.learnt? = none := by
  rcases resolve_eq_error h with ⟨_, -, f, -, -, rfl⟩ | ⟨p, -, -, rfl⟩ <;> rfl

/-- A fault of the device list keeps what was learnt, and no other fault keeps a snapshot. -/
theorem learnt?_of_disksOr {learnt s : Snapshot}
    (h : (v.disksOr learnt).outcome = .error e) (hs : e.learnt? = some s) : s = learnt := by
  change v.disks.outcome.mapError (keeping learnt) = .error e at h
  cases hd : v.disks.outcome with
  | ok disks =>
    rw [hd] at h
    cases h
  | error cause =>
    rw [hd] at h
    cases h
    cases cause <;> cases hs
    rfl

theorem learnt?_of_locate {learnt s : Snapshot}
    (h : (v.locate learnt).outcome = .error e) (hs : e.learnt? = some s) : s = learnt := by
  have hrole {role : Role} {disks : List Disk}
      (h : (v.resolve role disks).outcome = .error e) : s = learnt := by
    rw [learnt?_of_resolve h] at hs
    cases hs
  unfold locate at h
  rcases outcome_bind_eq_error.mp h with h | ⟨disks, -, h⟩
  · exact learnt?_of_disksOr h hs
  rcases outcome_bind_eq_error.mp h with h | ⟨_, -, h⟩
  · exact hrole h
  rcases outcome_bind_eq_error.mp h with h | ⟨_, -, h⟩
  · exact hrole h
  rcases outcome_bind_eq_error.mp h with h | ⟨_, -, h⟩
  · exact hrole h
  rcases outcome_bind_eq_error.mp h with h | ⟨_, -, h⟩
  · exact hrole h
  rw [outcome_bind_of_ok (outcome_debug _ _)] at h
  cases h

theorem locate_eq_ok {learnt s : Snapshot} (h : (v.locate learnt).outcome = .ok s) :
    s.uuid = learnt.uuid ∧ s.system = learnt.system := by
  unfold locate at h
  obtain ⟨disks, -, h⟩ := outcome_bind_eq_ok.mp h
  obtain ⟨persistent, -, h⟩ := outcome_bind_eq_ok.mp h
  obtain ⟨recovery, -, h⟩ := outcome_bind_eq_ok.mp h
  obtain ⟨oem, -, h⟩ := outcome_bind_eq_ok.mp h
  obtain ⟨state, -, h⟩ := outcome_bind_eq_ok.mp h
  rw [outcome_bind_of_ok (outcome_debug _ _)] at h
  cases h
  exact ⟨rfl, rfl⟩

theorem learn_of_takes {s : Snapshot} (h : v.Takes s) : ∃ learnt, v.learn.outcome = .ok learnt ∧
    s.uuid = learnt.uuid ∧ s.system = learnt.system := by
  unfold Takes at h
  rw [snapshot_eq_bind] at h
  cases hlearnt : v.learn.outcome with
  | ok learnt =>
    refine ⟨learnt, rfl, ?_⟩
    rw [outcome_bind_of_ok hlearnt] at h
    rcases h with h | ⟨e, h, hs⟩
    · exact locate_eq_ok h
    · rw [learnt?_of_locate h hs]
      exact ⟨rfl, rfl⟩
  | error e =>
    rw [bind_of_error hlearnt] at h
    rcases h with h | ⟨_, ⟨⟩, hs⟩
    · cases h
    · rw [learnt?_of_learn hlearnt] at hs
      cases hs

/-- The root is one that can be asked for where a snapshot is taken, and both the identifier and the
facts are those of the host. -/
theorem parts_of_takes {s : Snapshot} (h : v.Takes s) : ¬ v.files.holdsNull = true ∧
    v.identity v.isLive = .ok s.uuid ∧ (v.facts v.isLive).outcome = .ok s.system := by
  obtain ⟨learnt, hlearnt, huuid, hsystem⟩ := learn_of_takes h
  obtain ⟨boot, -, hlearnt⟩ := outcome_bind_eq_ok.mp hlearnt
  obtain ⟨uuid, hidentity, hlearnt⟩ := outcome_bind_eq_ok.mp hlearnt
  obtain ⟨system, hfacts, hlearnt⟩ := outcome_bind_eq_ok.mp hlearnt
  obtain ⟨distribution, -, hlearnt⟩ := outcome_bind_eq_ok.mp hlearnt
  cases hlearnt
  rw [huuid, hsystem]
  refine ⟨?_, hidentity, hfacts⟩
  intro hroot
  rw [facts_of_holdsNull hroot] at hfacts
  cases hfacts

end View

end HostSnapshot
