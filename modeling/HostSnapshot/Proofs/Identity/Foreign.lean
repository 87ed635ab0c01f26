import HostSnapshot.Proofs.Identity.HostName
import HostSnapshot.Proofs.Text.Pieces

namespace HostSnapshot.View

open Traced

variable {v : View}

def withHostname (v : View) (name : String) : View :=
  { v with host := { v.host with machine := { v.host.machine with hostname := name } } }

/-! The name of the machine. It is asked for in two places, and both ask only for a live host. -/

theorem orHostname_false (name : String) : v.orHostname false name = name := by
  simp [orHostname]

theorem identity_withHostname (name : String) :
    (v.withHostname name).identity false = v.identity false := by
  unfold identity
  simp only [orHostname_false]
  rfl

theorem nodeFacts_withHostname (name : String) :
    (v.withHostname name).nodeFacts false = v.nodeFacts false := by
  unfold nodeFacts
  simp only [orHostname_false]
  rfl

theorem facts_withHostname (name : String) :
    (v.withHostname name).facts false = v.facts false := by
  have hsystem : (v.withHostname name).systemFacts = v.systemFacts := rfl
  have hkernel : (v.withHostname name).kernelFacts = v.kernelFacts := rfl
  have hfirmware : (v.withHostname name).firmwareFacts = v.firmwareFacts := rfl
  have hprocessors : (v.withHostname name).processorFacts = v.processorFacts := rfl
  have hmemory : (v.withHostname name).memoryFacts = v.memoryFacts := rfl
  unfold facts
  rw [nodeFacts_withHostname, hsystem, hkernel, hfirmware, hprocessors, hmemory]

theorem snapshot_withHostname (h : v.isLive = false) (name : String) :
    (v.withHostname name).snapshot = v.snapshot := by
  have hlive : (v.withHostname name).isLive = false := h
  have hboot : (v.withHostname name).boot = v.boot := rfl
  have hdistribution : (v.withHostname name).distribution = v.distribution := rfl
  have hdisks : (v.withHostname name).disksOr = v.disksOr := rfl
  have hresolve : (v.withHostname name).resolve = v.resolve := rfl
  unfold snapshot
  rw [hlive, h, identity_withHostname, facts_withHostname, hboot, hdistribution, hdisks, hresolve]

theorem isTidy_ownIdentity (hrandom : Text.IsTidy v.host.machine.randomUuid.toList) :
    Text.IsTidy (v.ownIdentity false).toList := by
  have hfirst {hostPath : String}
      (h : String.ofList (Text.firstLine (v.textOrEmpty hostPath)) ≠ "") :
      Text.IsTidy (String.ofList (Text.firstLine (v.textOrEmpty hostPath))).toList := by
    rw [String.toList_ofList]
    apply Text.isTidy_firstLine
    intro hnil
    exact h (by rw [hnil])
  have hname : v.identityName false =
      String.ofList (Text.firstLine (v.textOrEmpty hostnamePath)) := orHostname_false _
  -- The identifier is the random one, one of two first lines, or both with a hyphen between them.
  unfold ownIdentity
  dsimp only
  by_cases hid : v.machineId = ""
  · by_cases hn : v.identityName false = ""
    · simpa [hid, hn] using hrandom
    · rw [if_neg (by simp [hn]), intercalate_filter, if_pos hid, hname]
      exact hfirst (hname ▸ hn)
  · rw [if_neg (by simp [hid]), intercalate_filter, if_neg hid]
    by_cases hn : v.identityName false = ""
    · rw [if_pos hn]
      exact hfirst hid
    · rw [if_neg hn, String.toList_append, String.toList_append]
      apply Text.IsTidy.append (hfirst hid)
      · rw [hname]
        exact hfirst (hname ▸ hn)
      · exact Text.forall_of_all rfl

/-- Whatever the files below a root that is not that of the running system hold, everything about a
snapshot is the same for all names of the machine that takes it, be it returned or a fault with what
was learnt. Where the environment does not identify it, its identifier is one line without blanks
around it, provided random identifiers are. -/
theorem foreign_identity (h : v.root ≠ Path.slash) :
    (∀ name other, (v.withHostname name).snapshot = (v.withHostname other).snapshot) ∧
    (v.host.environment.IsSilent → Text.IsTidy v.host.machine.randomUuid.toList →
      ∀ s, v.Takes s → Text.IsTidy s.uuid.toList) := by
  have hlive : v.isLive = false := decide_eq_false h
  constructor
  · intro name other
    rw [snapshot_withHostname hlive, snapshot_withHostname hlive]
  · intro hsilent hrandom s hs
    obtain ⟨hroot, hidentity, -⟩ := parts_of_takes hs
    rw [identity_of_isSilent hroot hsilent, Except.ok.injEq, hlive] at hidentity
    rw [← hidentity]
    exact isTidy_ownIdentity hrandom

/-- A root that has a name of two words with another line after it, and no identifier. -/
def foreignNamed : View := named ⟨.root, ["mnt"]⟩ "kairos node \x0cspare\n" "\t\n"

theorem foreignNamed_identity : foreignNamed.root ≠ Path.slash ∧
    (foreignNamed.withHostname "kairos").snapshot = foreignNamed.snapshot ∧
    foreignNamed.host.environment.IsSilent ∧
    Text.IsTidy foreignNamed.host.machine.randomUuid.toList ∧
    ∃ s, foreignNamed.Takes s ∧ Text.IsTidy s.uuid.toList := by
  have hroot : foreignNamed.root ≠ Path.slash := by decide
  have hrandom : Text.IsTidy foreignNamed.host.machine.randomUuid.toList := by
    constructor
    · decide
    · exact Text.forall_of_all rfl
    · intro c hc
      cases hc
      decide
    · intro c hc
      cases hc
      decide
  obtain ⟨s, hs⟩ : ∃ s, foreignNamed.snapshot.outcome = .ok s := exists_snapshot_named rfl rfl
  obtain ⟨hsame, htidy⟩ := foreign_identity hroot
  exact ⟨hroot, hsame "kairos" "builder", .inl rfl, hrandom, s, .inl hs,
    htidy (.inl rfl) hrandom s (.inl hs)⟩

end HostSnapshot.View
