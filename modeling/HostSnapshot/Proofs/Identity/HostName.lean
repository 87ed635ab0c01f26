import HostSnapshot.Proofs.Identity.Learnt
import HostSnapshot.Proofs.Snapshot.Answer
import HostSnapshot.Proofs.Text.FirstLine

namespace HostSnapshot

open Traced

theorem intercalate_filter (first second : String) :
    "-".intercalate ([first, second].filter (· ≠ "")) =
      if first = "" then second else if second = "" then first else first ++ "-" ++ second := by
  by_cases hfirst : first = ""
  · by_cases hsecond : second = ""
    · simp [hfirst, hsecond]
    · simp [hfirst, hsecond]
  · by_cases hsecond : second = ""
    · simp [hfirst, hsecond]
    · simp [hfirst, hsecond]

theorem intercalate_filter_inj {first a b : String} :
    "-".intercalate ([first, a].filter (· ≠ "")) = "-".intercalate ([first, b].filter (· ≠ "")) ↔
      a = b := by
  have hlonger (t : String) : first ≠ first ++ "-" ++ t := by
    intro h
    have hlength := congrArg String.length h
    simp only [String.length_append] at hlength
    have hone : "-".length = 1 := rfl
    omega
  rw [intercalate_filter, intercalate_filter]
  constructor
  · intro h
    by_cases hfirst : first = ""
    · simpa [hfirst] using h
    · rw [if_neg hfirst, if_neg hfirst] at h
      -- If just one of the two is empty, the other text is longer by the hyphen.
      by_cases ha : a = "" <;> by_cases hb : b = ""
      · rw [ha, hb]
      · rw [if_pos ha, if_neg hb] at h
        exact absurd h (hlonger b)
      · rw [if_neg ha, if_pos hb] at h
        exact absurd h.symm (hlonger a)
      · rw [if_neg ha, if_neg hb, String.append_right_inj] at h
        exact h
  · rintro rfl
    rfl

namespace View

variable {v : View}

/-- Whether both host names are bound to be one: no blanks stand at the end of the first line that
counts in the file, and where no line does, the machine has no name of several lines. -/
structure TellsOneName (v : View) : Prop where
  file : ∀ c, ((Text.lines (Text.strip (v.textOrEmpty hostnamePath))).headD []).getLast? = some c →
    Text.isBlank c = false
  machine : v.isLive = true → Text.strip (v.textOrEmpty hostnamePath) = [] →
    ∀ c ∈ v.host.machine.hostname.toList, Text.isLineEnd c = false

theorem names_of_strip_ne_nil (h : Text.strip (v.textOrEmpty hostnamePath) ≠ []) (live : Bool) :
    v.identityName live = String.ofList (Text.firstLine (v.textOrEmpty hostnamePath)) ∧
      v.nodeName live =
        String.ofList ((Text.lines (Text.strip (v.textOrEmpty hostnamePath))).headD []) := by
  have hline : ¬ String.ofList (Text.firstLine (v.textOrEmpty hostnamePath)) = "" := by
    rwa [String.ofList_eq_empty_iff, Text.firstLine_eq_nil_iff]
  have hname : ¬ String.ofList (Text.strip (v.textOrEmpty hostnamePath)) = "" := by
    rwa [String.ofList_eq_empty_iff]
  constructor
  · simp [identityName, orHostname, hline]
  · simp [nodeName, orHostname, hname]

theorem names_of_strip_eq_nil (h : Text.strip (v.textOrEmpty hostnamePath) = []) (live : Bool) :
    v.identityName live = (if live then v.host.machine.hostname else "") ∧
      v.nodeName live = if live then
        String.ofList ((Text.lines v.host.machine.hostname.toList).headD []) else "" := by
  have hline := Text.firstLine_eq_nil_iff.mpr h
  cases live with
  | false => simp [identityName, nodeName, orHostname, hline, h]
  | true => simp [identityName, nodeName, orHostname, hline, h]

theorem identityName_eq_nodeName_iff :
    v.identityName v.isLive = v.nodeName v.isLive ↔ v.TellsOneName := by
  by_cases hstrip : Text.strip (v.textOrEmpty hostnamePath) = []
  -- No line of the file counts, and a name is that of the machine or none.
  · obtain ⟨hidentity, hnode⟩ := names_of_strip_eq_nil hstrip v.isLive
    rw [hidentity, hnode]
    have hfile : ∀ c, ((Text.lines (Text.strip (v.textOrEmpty hostnamePath))).headD []).getLast? =
        some c → Text.isBlank c = false := by simp [hstrip]
    cases hlive : v.isLive with
    | false => exact iff_of_true rfl ⟨hfile, by simp [hlive]⟩
    | true =>
      rw [if_pos rfl, if_pos rfl]
      constructor
      · intro h
        refine ⟨hfile, ?_⟩
        intro _ _ c hc
        rw [h, String.toList_ofList] at hc
        exact Text.isLineEnd_of_mem_headD_lines hc
      · intro h
        rw [Text.headD_lines_of_forall (h.machine hlive hstrip), String.ofList_toList]
  · obtain ⟨hidentity, hnode⟩ := names_of_strip_ne_nil hstrip v.isLive
    rw [hidentity, hnode, String.ofList_inj, Text.firstLine_eq_headD_lines_iff]
    constructor
    · intro h
      exact ⟨h, fun _ hnil => absurd hnil hstrip⟩
    · exact TellsOneName.file

theorem along?_hostname {s : Snapshot} (hs : v.Takes s) :
    (Json.obj s.mapping).along? ["system", "node", "hostname"] =
      some (.str (v.nodeName v.isLive)) := by
  obtain ⟨hroot, -, hfacts⟩ := parts_of_takes hs
  unfold facts at hfacts
  rw [nodeFacts_eq hroot, outcome_bind_of_ok (outcome_ofExcept _)] at hfacts
  obtain ⟨system, -, hfacts⟩ := outcome_bind_eq_ok.mp hfacts
  obtain ⟨firmware, -, hfacts⟩ := outcome_bind_eq_ok.mp hfacts
  obtain ⟨processors, -, hfacts⟩ := outcome_bind_eq_ok.mp hfacts
  obtain ⟨memory, -, hfacts⟩ := outcome_bind_eq_ok.mp hfacts
  rw [outcome_pure, Except.ok.injEq] at hfacts
  have hsystem : Json.Members.find? s.mapping "system" =
      some (.obj (Json.shownMembers s.system)) := rfl
  -- The first section is the one of the node, and showing facts keeps its texts.
  have hnode : Json.Members.find? (Json.shownMembers s.system) "node" = some (.obj [
      ("hostname", .str (v.nodeName v.isLive)),
      ("machineid", .str (String.ofList (Text.strip (v.textOrEmpty machineIdPath)))),
      ("timezone", .str v.host.machine.timezone)]) := by
    rw [Json.Members.find?_shownMembers, ← hfacts]
    rfl
  simp only [Json.along?, List.foldlM_cons, List.foldlM_nil, Json.field?, hsystem, hnode,
    Option.getD_some, Option.bind_eq_bind, Option.bind_some]
  rfl

/-- Where the environment does not identify a snapshot and something of the host does, the
identifier of every snapshot is the identifier of the machine joined with the host name that the
snapshot itself has among its facts, exactly if both host names are bound to be one. -/
theorem uuid_joins_iff {s : Snapshot} (hs : v.Takes s) (hsilent : v.host.environment.IsSilent)
    (hknown : v.machineId ≠ "" ∨ v.identityName v.isLive ≠ "") :
    ∃ name, (Json.obj s.mapping).along? ["system", "node", "hostname"] = some (.str name) ∧
      (s.uuid = "-".intercalate ([v.machineId, name].filter (· ≠ "")) ↔ v.TellsOneName) := by
  refine ⟨_, along?_hostname hs, ?_⟩
  obtain ⟨hroot, hidentity, -⟩ := parts_of_takes hs
  rw [identity_of_isSilent hroot hsilent, Except.ok.injEq] at hidentity
  have huuid : s.uuid =
      "-".intercalate ([v.machineId, v.identityName v.isLive].filter (· ≠ "")) := by
    rw [← hidentity]
    unfold ownIdentity
    apply if_neg
    simp only [List.isEmpty_iff, List.filter_eq_nil_iff, List.mem_cons, List.not_mem_nil, or_false,
      forall_eq_or_imp, forall_eq, decide_eq_true_eq, ne_eq, not_not]
    intro h
    exact hknown.elim (absurd h.1) (absurd h.2)
  rw [huuid, intercalate_filter_inj, identityName_eq_nodeName_iff]

/-- A host without devices, with a file for its name and one for its identifier below a root. -/
def named (root : Path) (name id : String) : View :=
  .ofRoot { sample.host with
    files := ⟨(FileTree.dir []).put root.parts (.dir [("etc", .dir [
      ("hostname", .file (Text.Utf8.encode name.toList)),
      ("machine-id", .file (Text.Utf8.encode id.toList))])]), []⟩
    devices := .ok []
    tool := fun _ => .ok ⟨"", "", 1⟩
    machine := { sample.host.machine with
      hostname := "builder"
      randomUuid := "9f2c4b7e-31d5-4a08-8e66-0d1b7c5a2f93" }
    environment := ⟨none, none⟩ } root

theorem exists_snapshot_named {root : Path} {name id : String} (hroot : root.holdsNull = false)
    (hinfo : (named root name id).textOrEmpty cpuInfoPath = []) :
    ∃ s, (named root name id).snapshot.outcome = .ok s := by
  have hnull : ¬ (named root name id).files.holdsNull = true := Bool.eq_false_iff.mp hroot
  have hmemory : (named root name id).MemoryIsForgiven := fun _ h => nomatch h
  have hread : (named root name id).processorEntries.AreRead := by
    rw [processorEntries, hinfo]
    exact fun _ h => nomatch h
  obtain ⟨learnt, hlearnt⟩ := exists_learn hnull hmemory hread
  refine ⟨learnt, ?_⟩
  rw [snapshot_eq_bind, outcome_bind_of_ok hlearnt]
  exact outcome_locate_of_bare rfl (fun _ => ⟨_, rfl, Int.one_ne_zero⟩) hlearnt

def oneLineNamed : View := named .slash " kairos-node \n" "abc\n"

theorem oneLineNamed_uuid_joins : ∃ s, oneLineNamed.Takes s ∧
    oneLineNamed.host.environment.IsSilent ∧ oneLineNamed.machineId ≠ "" ∧
    ∃ name, (Json.obj s.mapping).along? ["system", "node", "hostname"] = some (.str name) ∧
      s.uuid = "-".intercalate ([oneLineNamed.machineId, name].filter (· ≠ "")) := by
  obtain ⟨s, hs⟩ : ∃ s, oneLineNamed.snapshot.outcome = .ok s := exists_snapshot_named rfl rfl
  have hid : oneLineNamed.machineId ≠ "" := by decide
  have hone : oneLineNamed.TellsOneName := by
    constructor
    · intro c hc
      cases hc
      decide
    · intro _ h
      cases h
  obtain ⟨name, hname, huuid⟩ := uuid_joins_iff (.inl hs) (.inl rfl) (.inl hid)
  exact ⟨s, .inl hs, .inl rfl, hid, name, hname, huuid.mpr hone⟩

/-- A host whose file has a second line, and blanks at the end of the first one. -/
def twoLineNamed : View := named .slash "kairos-node \nspare\n" "abc\n"

theorem twoLineNamed_uuid_differs : ∃ s, twoLineNamed.snapshot.outcome = .ok s ∧
    twoLineNamed.host.environment.IsSilent ∧ twoLineNamed.machineId = "abc" ∧
    (Json.obj s.mapping).along? ["system", "node", "hostname"] = some (.str "kairos-node ") ∧
    s.uuid = "abc-kairos-node" ∧
    s.uuid ≠ "-".intercalate (["abc", "kairos-node "].filter (· ≠ "")) := by
  obtain ⟨s, hs⟩ : ∃ s, twoLineNamed.snapshot.outcome = .ok s := exists_snapshot_named rfl rfl
  have hid : twoLineNamed.machineId = "abc" := by decide
  have hname : twoLineNamed.identityName twoLineNamed.isLive = "kairos-node" := by decide
  have hnode : twoLineNamed.nodeName twoLineNamed.isLive = "kairos-node " := by decide
  obtain ⟨hroot, hidentity, -⟩ := parts_of_takes (.inl hs)
  rw [identity_of_isSilent hroot (.inl rfl), ownIdentity, hid, hname] at hidentity
  have huuid : s.uuid = "abc-kairos-node" := (Except.ok.inj hidentity).symm
  refine ⟨s, hs, .inl rfl, hid, ?_, huuid, ?_⟩
  · rw [along?_hostname (.inl hs), hnode]
  · rw [huuid]
    decide

end View

end HostSnapshot
