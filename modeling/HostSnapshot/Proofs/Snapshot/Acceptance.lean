import HostSnapshot.Proofs.Discovery.Capture
import HostSnapshot.Proofs.Json.Field
import HostSnapshot.Snapshot.Mapping
import HostSnapshot.Snapshot.Validation

namespace HostSnapshot

/-- An issue, where the object that is repeated with data of an absent partition is another one. -/
def Issue.about (given : Json) (i : Issue) : Issue :=
  if i.problem = .absentWithData then { i with input := given } else i

/-- An issue as it is reported: its kind, the keys that lead to it and its message. -/
def Issue.report (i : Issue) : String × List String × String :=
  (i.problem.kind, i.place, i.problem.message)

@[simp] theorem Issue.report_about (given : Json) (i : Issue) :
    (i.about given).report = i.report := by
  unfold Issue.about
  split <;> rfl

/-- Readers that do not refuse data of an absent partition give issues that are about their own
input. -/
theorem Issue.about_of_mem_field {α : Type} {read : Json → Except Problem α}
    (hread : ∀ v, read v ≠ .error .absentWithData) {ms : Json.Members} {keys : List String}
    {default : α} {given : Json} : ∀ i ∈ (ms.field keys read default).2, i.about given = i := by
  intro i hi
  obtain ⟨v, hv⟩ := Json.Members.problem_of_mem_field hi
  apply if_neg
  intro habsent
  rw [habsent] at hv
  exact hread v hv

namespace PartitionState

/-- What members say of a partition: each field that is there can be read, and the others have
their defaults. -/
structure Says (ms : Json.Members) (isFound : Bool) (p : Partition.Found) : Prop where
  name : ms.Reads ["name"] Json.IsText "" p.name
  label : ms.Reads ["label"] Json.IsText "" p.label
  filesystemLabel :
    ms.Reads ["filesystemlabel", "filesystem_label"] Json.IsText "" p.filesystemLabel
  mountPoint : ms.Reads ["mount_point"] Json.IsText "" p.mountPoint
  size : ms.Reads ["size_bytes"] (fun v (n : Nat) => Json.IsInteger v n) 0 p.size
  type : ms.Reads ["type"] Json.IsText "" p.type
  readOnly : ms.Reads ["read_only", "is_read_only"] Json.IsFlag false p.readOnly
  isFound : ms.Reads ["found"] Json.IsFlag false isFound
  uuid : ms.Reads ["uuid"] Json.IsText "" p.uuid

theorem ofFound_eq_ok_iff {given : Json.Members} {isFound : Bool} {p : Partition.Found}
    {s : PartitionState} : ofFound given isFound p = .ok s ↔
      isFound = true ∧ s = .found p ∨
      isFound = false ∧ p = ⟨"", "", "", "", 0, "", false, ""⟩ ∧ s = .absent := by
  cases isFound with
  | true => simp [ofFound, eq_comm]
  | false =>
    by_cases hp : p = absent.facts
    · rw [ofFound, if_neg (by decide), if_pos hp]
      simp [hp, facts, eq_comm]
    · have hp' := hp
      rw [facts] at hp'
      rw [ofFound, if_neg (by decide), if_neg hp]
      simp [hp']

/-- Members are accepted exactly when they can be read and an absent partition carries no data. -/
theorem ofMembers_eq_ok_iff {ms : Json.Members} {s : PartitionState} :
    ofMembers ms = .ok s ↔ ∃ isFound p, Says ms isFound p ∧ ofFound ms isFound p = .ok s := by
  -- Each field is read without an issue exactly if it has what its reader says.
  have htext (keys : List String) (t : String) :
      ms.field keys Json.readText "" = (t, []) ↔ ms.Reads keys Json.IsText "" t :=
    Json.Members.field_eq_iff fun _ _ => Json.readText_eq_ok_iff
  have hflag (keys : List String) (b : Bool) :
      ms.field keys Json.readFlag false = (b, []) ↔ ms.Reads keys Json.IsFlag false b :=
    Json.Members.field_eq_iff fun _ _ => Json.readFlag_eq_ok_iff
  have hsize (n : Nat) : ms.field ["size_bytes"] Json.readNat 0 = (n, []) ↔
      ms.Reads ["size_bytes"] (fun v (n : Nat) => Json.IsInteger v n) 0 n :=
    Json.Members.field_eq_iff fun _ _ => Json.readNat_eq_ok_iff
  unfold ofMembers
  constructor
  · intro h
    dsimp only at h
    split at h
    · next hissues =>
      simp only [List.append_eq_nil_iff] at hissues
      obtain ⟨⟨⟨⟨⟨⟨⟨⟨h₁, h₂⟩, h₃⟩, h₄⟩, h₅⟩, h₆⟩, h₇⟩, h₈⟩, h₉⟩ := hissues
      refine ⟨_, _, ⟨(htext _ _).mp (Prod.ext rfl h₁), (htext _ _).mp (Prod.ext rfl h₂),
        (htext _ _).mp (Prod.ext rfl h₃), (htext _ _).mp (Prod.ext rfl h₄),
        (hsize _).mp (Prod.ext rfl h₅), (htext _ _).mp (Prod.ext rfl h₆),
        (hflag _ _).mp (Prod.ext rfl h₇), (hflag _ _).mp (Prod.ext rfl h₈),
        (htext _ _).mp (Prod.ext rfl h₉)⟩, h⟩
    · cases h
  · rintro ⟨isFound, p, hsays, h⟩
    rw [(htext _ _).mpr hsays.name, (htext _ _).mpr hsays.label,
      (htext _ _).mpr hsays.filesystemLabel, (htext _ _).mpr hsays.mountPoint,
      (hsize _).mpr hsays.size, (htext _ _).mpr hsays.type, (hflag _ _).mpr hsays.readOnly,
      (hflag _ _).mpr hsays.isFound, (htext _ _).mpr hsays.uuid]
    exact h

theorem refused_congr {issues : List Issue} {f : Issue → Issue} {x y : Checked PartitionState} :
    y = x.mapError (List.map f) → (∀ i ∈ issues, f i = i) →
    (match issues with
      | [] => y
      | issues => .error issues) =
    (match issues with
      | [] => x
      | issues => .error issues : Checked PartitionState).mapError (List.map f) := by
  intro hxy h
  cases issues with
  | nil => exact hxy
  | cons i issues =>
    have hsame : (i :: issues).map f = i :: issues :=
      (List.map_congr_left h).trans (List.map_id' _)
    exact congrArg Except.error hsame.symm

/-- Only what stands under the keys of the fields matters, but for the object that is repeated where
an absent partition carries data. -/
theorem ofMembers_congr {ms ms' : Json.Members}
    (h : ∀ k, k ≠ "mounted" → ms.find? k = ms'.find? k) :
    ofMembers ms' = (ofMembers ms).mapError (List.map (Issue.about (.obj ms'))) := by
  have hfield {α : Type} (keys : List String) (hkeys : "mounted" ∉ keys)
      (read : Json → Except Problem α) (default : α) :
      ms'.field keys read default = ms.field keys read default :=
    Json.Members.field_congr fun k hk => (h k fun heq => hkeys (heq ▸ hk)).symm
  -- No field is refused for data of an absent partition, so its issues stay as they are.
  have htext {keys : List String} : ∀ i ∈ (ms.field keys Json.readText "").2,
      i.about (.obj ms') = i :=
    Issue.about_of_mem_field Json.readText_ne_absentWithData
  have hflag {keys : List String} : ∀ i ∈ (ms.field keys Json.readFlag false).2,
      i.about (.obj ms') = i :=
    Issue.about_of_mem_field Json.readFlag_ne_absentWithData
  have hsize : ∀ i ∈ (ms.field ["size_bytes"] Json.readNat 0).2, i.about (.obj ms') = i :=
    Issue.about_of_mem_field Json.readNat_ne_absentWithData
  unfold ofMembers
  simp (disch := decide) only [hfield]
  apply refused_congr
  · unfold ofFound
    split_ifs
    · rfl
    · rfl
    · rfl
  · simp only [List.forall_mem_append]
    exact ⟨⟨⟨⟨⟨⟨⟨⟨htext, htext⟩, htext⟩, htext⟩, hsize⟩, htext⟩, hflag⟩, hflag⟩, htext⟩

theorem reports_congr {ms ms' : Json.Members}
    (h : ∀ k, k ≠ "mounted" → ms.find? k = ms'.find? k) :
    (ofMembers ms').mapError (List.map Issue.report) =
      (ofMembers ms).mapError (List.map Issue.report) := by
  rw [ofMembers_congr h]
  cases ofMembers ms with
  | ok s => rfl
  | error issues => simp [Except.mapError]

/-- The members with a flag that tells whether there is a mount point, however that is spelled. -/
def withMounted (ms : Json.Members) : Json.Members :=
  ms.set "mounted" (.bool ((ms.find? "mount_point").any Json.isTruthy))

theorem ofMembers_withMounted {ms : Json.Members} {s : PartitionState} (h : ofMembers ms = .ok s) :
    ofMembers (withMounted ms) = .ok s := by
  have hfind (k : String) (hk : k ≠ "mounted") : ms.find? k = (withMounted ms).find? k := by
    rw [withMounted, Json.Members.find?_set, if_neg hk]
  rw [ofMembers_congr hfind, h]
  rfl

/-- The mount point that was read is that of the state, also of an absent one. -/
theorem mountPoint_of_ofFound {given : Json.Members} {isFound : Bool} {p : Partition.Found}
    {s : PartitionState} (h : ofFound given isFound p = .ok s) :
    s.facts.mountPoint = p.mountPoint := by
  rcases ofFound_eq_ok_iff.mp h with ⟨-, rfl⟩ | ⟨-, rfl, rfl⟩ <;> rfl

theorem mounted_of_ofMembers {ms : Json.Members} {s : PartitionState} (h : ofMembers ms = .ok s) :
    (withMounted ms).field ["mounted"] Json.readFlag false = (s.isMounted, []) := by
  obtain ⟨isFound, p, hsays, hp⟩ := ofMembers_eq_ok_iff.mp h
  have hflag : (ms.find? "mount_point").any Json.isTruthy = s.isMounted := by
    unfold isMounted
    rw [mountPoint_of_ofFound hp]
    rcases Json.Members.reads_singleton_iff.mp hsays.mountPoint with ⟨hnone, hpoint⟩ | ⟨v, hv, ht⟩
    · simp [hnone, hpoint]
    · cases ht
      rw [hv]
      rfl
  apply (Json.Members.field_eq_iff fun _ _ => Json.readFlag_eq_ok_iff).mpr
  apply Json.Members.reads_singleton_iff.mpr
  refine .inr ⟨_, ?_, .bool _⟩
  rw [withMounted, Json.Members.find?_set, if_pos rfl, hflag]

def blank : Json.Members :=
  [("mounted", .bool false), ("name", .str ""), ("label", .str ""), ("filesystemlabel", .str ""),
   ("mount_point", .str ""), ("size_bytes", .int 0), ("type", .str ""), ("read_only", .bool false),
   ("found", .bool false), ("uuid", .str "")]

/-- A partition is mounted if it has a mount point, its size is not negative, and there is nothing
to show of one that was not found. -/
def IsConsistent (ms : Json.Members) : Prop :=
  ∃ (point : String) (size : Int) (isFound : Bool),
    ms.find? "mount_point" = some (.str point) ∧ ms.find? "mounted" = some (.bool (point ≠ "")) ∧
    ms.find? "size_bytes" = some (.int size) ∧ 0 ≤ size ∧
    ms.find? "found" = some (.bool isFound) ∧ (isFound = false → ms = blank)

theorem isConsistent_mapping (s : PartitionState) : IsConsistent s.mapping := by
  refine ⟨s.facts.mountPoint, s.facts.size, s.isFound, rfl, rfl, rfl, Int.natCast_nonneg _, rfl, ?_⟩
  intro hfound
  cases s with
  | absent => rfl
  | found p => cases hfound

end PartitionState

theorem Snapshot.exists_isConsistent (s : Snapshot) (role : Role) :
    ∃ ms, Json.Members.find? s.mapping role.name = some (.obj ms) ∧
      PartitionState.IsConsistent ms := by
  refine ⟨(s.partition role).mapping, ?_, PartitionState.isConsistent_mapping _⟩
  cases role <;> rfl

/-! The partitions of a host are checked like those that are read. -/

def Partition.fields (p : Partition) (mountPoint : String) (readOnly : Bool) : Json.Members :=
  [("name", .str (deviceFile p.name)), ("label", .str p.label),
   ("filesystem_label", .str p.filesystemLabel), ("mount_point", .str mountPoint),
   ("size_bytes", .int p.size), ("type", .str p.type), ("is_read_only", .bool readOnly),
   ("found", .bool true), ("uuid", .str p.uuid)]

def FoundDevice.fields (d : FoundDevice) : Json.Members :=
  [("name", .str d.path), ("filesystem_label", .str d.label), ("mount_point", .str d.mountPoint),
   ("type", .str d.type), ("is_read_only", .bool d.readOnly), ("found", .bool true)]

theorem Partition.state_eq_ofMembers (p : Partition) (mountPoint : String) (readOnly : Bool) :
    p.state mountPoint readOnly =
      (PartitionState.ofMembers (p.fields mountPoint readOnly)).mapError Fault.invalid := by
  have hsize : Json.readNat (.int p.size) =
      if p.size < 0 then .error .negative else .ok p.size.toNat := rfl
  unfold Partition.state
  simp only [PartitionState.ofMembers, Partition.fields, Json.Members.field, Json.Members.first?,
    List.findSome?_cons, Json.Members.find?_cons, Json.Members.find?_nil, String.reduceEq, if_false,
    if_true, Option.map_some, Option.map_none, Json.readText, Json.readFlag, hsize]
  split
  · rfl
  · rfl

theorem FoundDevice.ofMembers_fields (d : FoundDevice) :
    PartitionState.ofMembers d.fields = .ok d.state := by
  simp [PartitionState.ofMembers, FoundDevice.fields, FoundDevice.state, Json.Members.field,
    Json.Members.first?, Json.Members.find?_cons, Json.Members.find?_nil, Json.readText,
    Json.readFlag, PartitionState.ofFound]

/-- The fields from which the partition of a role is made. -/
inductive PartitionState.MadeFrom : Json.Members → Prop
  | listed (p : Partition) (mountPoint : String) (readOnly : Bool) :
    MadeFrom (p.fields mountPoint readOnly)
  | volume (d : FoundDevice) : MadeFrom d.fields
  | nothing : MadeFrom []

namespace View

open Traced PartitionState

theorem stateWith_made {p : Partition} {mount : Option FoundMount} {state : PartitionState}
    (h : (stateWith p mount).outcome = .ok state) :
    ∃ fields, MadeFrom fields ∧ ofMembers fields = .ok state := by
  have hmade {point : String} {readOnly : Bool} (h : p.state point readOnly = .ok state) :
      ∃ fields, MadeFrom fields ∧ ofMembers fields = .ok state := by
    refine ⟨_, .listed p point readOnly, ?_⟩
    rw [Partition.state_eq_ofMembers] at h
    cases hm : ofMembers (p.fields point readOnly) with
    | error issues =>
      rw [hm] at h
      cases h
    | ok s =>
      rw [hm] at h
      cases h
      rfl
  cases mount with
  | none => exact hmade h
  | some m =>
    obtain ⟨readOnly, -, h⟩ := outcome_bind_eq_ok.mp h
    exact hmade h

theorem resolve_made {v : View} {role : Role} {disks : List Disk} {state : PartitionState}
    (h : (v.resolve role disks).outcome = .ok state) :
    ∃ fields, MadeFrom fields ∧ ofMembers fields = .ok state := by
  have hnothing : ofMembers [] = .ok .absent := rfl
  cases hp : (Disk.labelled role.label disks).getLast? with
  | some p =>
    rw [resolve_of_some hp, partitionState_eq] at h
    split at h
    · obtain ⟨mount, -, h⟩ := outcome_bind_eq_ok.mp h
      exact stateWith_made h
    · exact stateWith_made h
  -- Whatever is absent is made from no fields at all.
  | none =>
    by_cases hv : role.mayBeVolume = true
    · rw [resolve_of_volume hp hv] at h
      obtain ⟨d, -, h⟩ := outcome_bind_eq_ok.mp h
      cases d with
      | none =>
        cases h
        exact ⟨[], .nothing, hnothing⟩
      | some d =>
        cases h
        exact ⟨d.fields, .volume d, d.ofMembers_fields⟩
    · rw [resolve_of_none hp (Bool.not_eq_true _ ▸ hv)] at h
      cases h
      exact ⟨[], .nothing, hnothing⟩

end View

/-- A value is accepted exactly if it is an object whose fields can be read and which tells nothing
of a partition that was not found. What it says of being mounted matters neither to the state nor to
the kind, the place and the message of an issue; the issue that repeats the whole object repeats it
as it was given. Every state is consistent, and so are those in a snapshot, which are made from
fields that are accepted. -/
theorem PartitionState.ofJson_accepts :
    (∀ d s, ofJson d = .ok s ↔ ∃ ms isFound p, d = .obj ms ∧ Says ms isFound p ∧
      (isFound = true ∧ s = .found p ∨
        isFound = false ∧ p = ⟨"", "", "", "", 0, "", false, ""⟩ ∧ s = .absent)) ∧
    (∀ ms s, ofJson (.obj ms) = .ok s → IsConsistent s.mapping ∧
      ofJson (.obj (withMounted ms)) = .ok s ∧
      (withMounted ms).field ["mounted"] Json.readFlag false = (s.isMounted, [])) ∧
    (∀ ms ms' : Json.Members, (∀ k, k ≠ "mounted" → ms.find? k = ms'.find? k) →
      (ofJson (.obj ms')).mapError (List.map Issue.report) =
        (ofJson (.obj ms)).mapError (List.map Issue.report) ∧
      ofJson (.obj ms') = (ofJson (.obj ms)).mapError (List.map (Issue.about (.obj ms')))) ∧
    (∀ (s : Snapshot) role, ∃ ms, Json.Members.find? s.mapping (Role.name role) = some (.obj ms) ∧
      IsConsistent ms) ∧
    ∀ v s, (View.snapshot v).outcome = .ok s → ∀ role, ∃ fields, MadeFrom fields ∧
      ofMembers fields = .ok (s.partition role) := by
  refine ⟨?_, ?_, fun _ _ h => ⟨reports_congr h, ofMembers_congr h⟩, Snapshot.exists_isConsistent,
    ?_⟩
  · intro d s
    constructor
    · intro h
      cases d with
      | obj ms =>
        obtain ⟨isFound, p, hsays, hp⟩ := ofMembers_eq_ok_iff.mp h
        exact ⟨ms, isFound, p, rfl, hsays, ofFound_eq_ok_iff.mp hp⟩
      | _ => cases h
    · rintro ⟨ms, isFound, p, rfl, hsays, hp⟩
      exact ofMembers_eq_ok_iff.mpr ⟨isFound, p, hsays, ofFound_eq_ok_iff.mpr hp⟩
  · intro ms s h
    exact ⟨isConsistent_mapping s, ofMembers_withMounted h, mounted_of_ofMembers h⟩
  · intro v s h role
    obtain ⟨disks, -, hresolve, -⟩ := View.snapshot_eq_ok h
    exact View.resolve_made (hresolve role)

/-- Members with both keys of one field, a size in words and a wrong flag for being mounted. -/
def PartitionState.sampleMembers : Json.Members :=
  [("filesystem_label", .int 7), ("filesystemlabel", .str "COS_OEM"), ("mount_point", .str "/oem"),
   ("size_bytes", .str "\u00a0+0_1_024.0 "), ("read_only", .int 1), ("found", .str "YES"),
   ("mounted", .arr [])]

theorem PartitionState.ofJson_accepts_sample :
    (∃ s, ofJson (.obj sampleMembers) = .ok s ∧
      s = .found ⟨"", "", "COS_OEM", "/oem", 1024, "", true, ""⟩ ∧ IsConsistent s.mapping) ∧
    ofJson (.obj (Json.Members.set sampleMembers "mounted" .null)) =
      ofJson (.obj sampleMembers) ∧
    (¬ ∃ s, ofJson (.obj [("name", .str "sda1"), ("found", .bool false)]) = .ok s) ∧
    ∃ s, View.sample.snapshot.outcome = .ok s ∧ ∃ fields, MadeFrom fields ∧
      ofMembers fields = .ok s.oem := by
  obtain ⟨haccepts, hconsistent, hmounted, -, hmade⟩ := ofJson_accepts
  have hs : ofJson (.obj sampleMembers) =
      .ok (.found ⟨"", "", "COS_OEM", "/oem", 1024, "", true, ""⟩) := by
    apply (haccepts _ _).mpr
    refine ⟨_, true, _, rfl, ?_, .inl ⟨rfl, rfl⟩⟩
    exact {
      name := .missing (by decide)
      label := .missing (by decide)
      filesystemLabel := .there (List.nil_append _).symm (by decide) rfl (.str _)
      mountPoint := .there (List.nil_append _).symm (by decide) rfl (.str _)
      size := .there (List.nil_append _).symm (by decide) rfl
        (.text (Json.Integer.ofText_eq_ok_iff.mp rfl))
      type := .missing (by decide)
      readOnly := .there (List.nil_append _).symm (by decide) rfl .one
      isFound := .there (List.nil_append _).symm (by decide) rfl (.yes (by decide))
      uuid := .missing (by decide) }
  obtain ⟨s, hsnapshot⟩ := View.snapshot_sample
  refine ⟨⟨_, hs, rfl, (hconsistent _ _ hs).1⟩, ?_, ?_, s, hsnapshot, hmade _ s hsnapshot .oem⟩
  · have hsame := (hmounted sampleMembers (Json.Members.set sampleMembers "mounted" .null)
      fun k hk => by rw [Json.Members.find?_set, if_neg hk]).2
    rw [hsame, hs]
    rfl
  · rintro ⟨s, h⟩
    obtain ⟨ms, isFound, p, hms, hsays, hp⟩ := (haccepts _ _).mp h
    cases hms
    -- The flag is read as it stands, and so is the name, which an absent partition does not have.
    have hfound : isFound = false := by
      rcases Json.Members.reads_singleton_iff.mp hsays.isFound with ⟨hnone, -⟩ | ⟨v, hv, hflag⟩
      · cases hnone
      · cases hv
        cases hflag
        rfl
    have hname : p.name = "sda1" := by
      rcases Json.Members.reads_singleton_iff.mp hsays.name with ⟨hnone, -⟩ | ⟨v, hv, htext⟩
      · cases hnone
      · cases hv
        exact (Except.ok.inj (Json.readText_eq_ok_iff.mpr htext)).symm
    rcases hp with ⟨htrue, -⟩ | ⟨-, rfl, -⟩
    · rw [hfound] at htrue
      cases htrue
    · exact absurd hname (by decide)

end HostSnapshot
