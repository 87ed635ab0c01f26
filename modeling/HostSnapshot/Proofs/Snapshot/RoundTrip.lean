import HostSnapshot.CommandLine.Report
import HostSnapshot.Proofs.Json.Reading
import HostSnapshot.Proofs.Snapshot.Dump
import HostSnapshot.Snapshot.Validation
import Mathlib.Algebra.Group.Nat.Defs
import Mathlib.Data.List.Sublists

namespace HostSnapshot

/-- Members whose keys are replaced where there is another name for them. -/
def Json.Members.renamed (names : List (String × String)) (ms : Json.Members) : Json.Members :=
  ms.map fun (k, v) => ((names.lookup k).getD k, v)

def PartitionState.fieldNames : List (String × String) :=
  [("filesystemlabel", "filesystem_label"), ("read_only", "is_read_only")]

def Snapshot.fieldNames : List (String × String) := [("boot", "boot_state")]

/-- The mapping of a snapshot in which keys are spelled as the names of their fields: `names` says
which at the top, and `partNames` which in the mapping of each role. -/
def Snapshot.mappingNamed (names : List (String × String))
    (partNames : Role → List (String × String)) (s : Snapshot) : Json.Members :=
  Json.Members.renamed names [
    ("uuid", .str s.uuid),
    ("persistent", .obj (s.persistent.mapping.renamed (partNames .persistent))),
    ("recovery", .obj (s.recovery.mapping.renamed (partNames .recovery))),
    ("oem", .obj (s.oem.mapping.renamed (partNames .oem))),
    ("state", .obj (s.state.mapping.renamed (partNames .state))),
    ("boot", .str s.boot.name),
    ("system", .obj (Json.shownMembers s.system)),
    ("kairos", .obj s.distribution.mapping)]

namespace Json.Members

variable (names : List (String × String)) (ms : List (String × Json))

theorem renamed_nil : renamed [] ms = ms := by
  simp [renamed]

theorem keys_renamed :
    (renamed names ms).map Prod.fst = (ms.map Prod.fst).map fun k => (names.lookup k).getD k := by
  simp [renamed]

theorem membersExact_renamed : membersExact (renamed names ms) = membersExact ms := by
  induction ms with
  | nil => rfl
  | cons m ms ih => exact congrArg (isExact m.2 && ·) ih

theorem membersWritable_renamed : membersWritable (renamed names ms) = membersWritable ms := by
  induction ms with
  | nil => rfl
  | cons m ms ih => exact congrArg (isWritable m.2 && ·) ih

theorem memberNesting_renamed : memberNesting (renamed names ms) = memberNesting ms := by
  induction ms with
  | nil => rfl
  | cons m ms ih => exact congrArg (max (nesting m.2) ·) ih

end Json.Members

theorem Snapshot.mappingNamed_nil (s : Snapshot) : s.mappingNamed [] (fun _ => []) = s.mapping := by
  simp [Snapshot.mappingNamed, Snapshot.mapping, Json.Members.renamed_nil]

theorem PartitionState.sublist_fieldNames {names : List (String × String)}
    (h : names.Sublist PartitionState.fieldNames) :
    names = [] ∨ names = [("filesystemlabel", "filesystem_label")] ∨
      names = [("read_only", "is_read_only")] ∨
      names = [("filesystemlabel", "filesystem_label"), ("read_only", "is_read_only")] := by
  have hs : List.sublists PartitionState.fieldNames =
      [[], [("filesystemlabel", "filesystem_label")], [("read_only", "is_read_only")],
        [("filesystemlabel", "filesystem_label"), ("read_only", "is_read_only")]] := rfl
  rw [← List.mem_sublists, hs] at h
  simpa using h

theorem Snapshot.sublist_fieldNames {names : List (String × String)}
    (h : names.Sublist Snapshot.fieldNames) : names = [] ∨ names = [("boot", "boot_state")] := by
  have hs : List.sublists Snapshot.fieldNames = [[], [("boot", "boot_state")]] := rfl
  rw [← List.mem_sublists, hs] at h
  simpa using h

theorem Json.readNat_int (n : Nat) : Json.readNat (.int n) = .ok n := by
  have h : ¬ (n : Int) < 0 := by omega
  change (if (n : Int) < 0 then Except.error Problem.negative else .ok (n : Int).toNat) = .ok n
  rw [if_neg h, Int.toNat_natCast]

theorem Boot.ofName?_name (boot : Boot) : Boot.ofName? boot.name = some boot := by
  cases boot <;> decide

theorem PartitionState.ofFound_facts (s : PartitionState) (given : Json.Members) :
    PartitionState.ofFound given s.isFound s.facts = .ok s := by
  cases s <;> simp [PartitionState.ofFound, PartitionState.isFound, PartitionState.facts]

theorem PartitionState.ofJson_renamed (s : PartitionState) {names : List (String × String)}
    (h : names.Sublist PartitionState.fieldNames) :
    PartitionState.ofJson (.obj (s.mapping.renamed names)) = .ok s := by
  have hfacts := s.ofFound_facts
  rcases PartitionState.sublist_fieldNames h with rfl | rfl | rfl | rfl
  all_goals
    simp only [Json.Members.renamed, PartitionState.mapping, List.map_cons, List.map_nil,
      List.lookup_cons, List.lookup_nil, String.reduceBEq, Option.getD_some, Option.getD_none]
    simp [PartitionState.ofJson, PartitionState.ofMembers, Json.Members.field, Json.Members.first?,
      Json.Members.find?_cons, Json.Members.find?_nil, Json.readText, Json.readFlag,
      Json.readNat_int]
    exact hfacts _

theorem Distribution.ofJson_mapping (d : Distribution) :
    Distribution.ofJson (.obj d.mapping) = .ok d := by
  simp [Distribution.ofJson, Distribution.ofMembers, Json.Members.field, Json.Members.first?,
    Json.Members.find?_cons, Distribution.mapping, Json.readText]

theorem Snapshot.ofJson_mappingNamed (s : Snapshot) {names : List (String × String)}
    {partNames : Role → List (String × String)} (h : names.Sublist Snapshot.fieldNames)
    (hp : ∀ role, (partNames role).Sublist PartitionState.fieldNames)
    (hs : (Json.obj s.system).isFinite = true) :
    Snapshot.ofJson (.obj (s.mappingNamed names partNames)) = .ok s := by
  have hpart (t : PartitionState) (role : Role) :
      PartitionState.ofJson (.obj (t.mapping.renamed (partNames role))) = .ok t :=
    t.ofJson_renamed (hp role)
  rcases Snapshot.sublist_fieldNames h with rfl | rfl
  all_goals
    rw [Snapshot.mappingNamed, Snapshot.shownMembers_system hs, Json.Members.renamed]
    simp only [List.map_cons, List.map_nil, List.lookup_cons, List.lookup_nil, String.reduceBEq,
      Option.getD_some, Option.getD_none]
    simp [Snapshot.ofJson, Snapshot.ofMembers, Json.Members.field, Json.Members.part,
      Json.Members.first?, Json.Members.find?_cons, Json.Members.find?_nil, Json.readText,
      Json.readMembers, Boot.ofJson, Boot.ofName?_name, Distribution.ofJson_mapping, hpart]

theorem PartitionState.isExact_renamed (s : PartitionState) {names : List (String × String)}
    (h : names.Sublist PartitionState.fieldNames) :
    (Json.obj (s.mapping.renamed names)).isExact = true := by
  have hkeys : s.mapping.map Prod.fst = ["mounted", "name", "label", "filesystemlabel",
      "mount_point", "size_bytes", "type", "read_only", "found", "uuid"] := rfl
  have hvalues : Json.membersExact s.mapping = true := rfl
  rw [Json.isExact, Json.Members.membersExact_renamed, Json.Members.keys_renamed, hvalues,
    hkeys, Bool.and_true]
  rcases PartitionState.sublist_fieldNames h with rfl | rfl | rfl | rfl
  all_goals decide

theorem PartitionState.isWritable_renamed (s : PartitionState) (names : List (String × String)) :
    (Json.obj (s.mapping.renamed names)).isWritable = Text.Integer.isWritable s.facts.size := by
  rw [Json.isWritable, Json.Members.membersWritable_renamed]
  simp [PartitionState.mapping, Json.membersWritable, Json.isWritable]

theorem PartitionState.nesting_renamed (s : PartitionState) (names : List (String × String)) :
    (Json.obj (s.mapping.renamed names)).nesting = 1 := by
  rw [Json.nesting, Json.Members.memberNesting_renamed]
  rfl

theorem Snapshot.isExact_mappingNamed (s : Snapshot) {names : List (String × String)}
    {partNames : Role → List (String × String)} (h : names.Sublist Snapshot.fieldNames)
    (hp : ∀ role, (partNames role).Sublist PartitionState.fieldNames)
    (hs : (Json.obj s.system).isExact = true) :
    (Json.obj (s.mappingNamed names partNames)).isExact = true := by
  have hpart (t : PartitionState) (role : Role) := t.isExact_renamed (hp role)
  have hkairos : (Json.obj s.distribution.mapping).isExact = true := rfl
  rw [Snapshot.mappingNamed, Snapshot.shownMembers_system (Json.isFinite_of_isExact _ hs),
    Json.isExact, Json.Members.membersExact_renamed,
    Json.Members.keys_renamed, Bool.and_eq_true]
  constructor
  · simp only [List.map_cons, List.map_nil]
    rcases Snapshot.sublist_fieldNames h with rfl | rfl
    all_goals decide
  · simp only [Json.membersExact, hpart, hkairos, hs]
    rfl

theorem Snapshot.isWritable_mappingNamed (s : Snapshot) (names : List (String × String))
    (partNames : Role → List (String × String)) (hfinite : (Json.obj s.system).isFinite = true)
    (hs : (Json.obj s.system).isWritable = true) :
    (Json.obj (s.mappingNamed names partNames)).isWritable = true ↔
      ∀ role, (s.partition role).facts.size < 10 ^ Text.Integer.maxDigits := by
  have hfits (n : Nat) : Text.Integer.isWritable n = true ↔ n < 10 ^ Text.Integer.maxDigits := by
    rw [Text.Integer.isWritable, decide_eq_true_eq]
    exact Nat.length_toDigits_le_iff (by decide) (by decide)
  have hkairos : (Json.obj s.distribution.mapping).isWritable = true := rfl
  have htext (t : String) : (Json.str t).isWritable = true := rfl
  rw [Snapshot.mappingNamed, Snapshot.shownMembers_system hfinite, Json.isWritable,
    Json.Members.membersWritable_renamed]
  simp only [Json.membersWritable, PartitionState.isWritable_renamed, hkairos, hs, htext,
    Bool.and_true, Bool.true_and, Bool.and_eq_true, hfits]
  constructor
  · rintro ⟨hpersistent, hrecovery, hoem, hstate⟩ role
    cases role <;> assumption
  · intro h
    exact ⟨h .persistent, h .recovery, h .oem, h .state⟩

theorem Snapshot.nesting_mappingNamed (s : Snapshot) (names : List (String × String))
    (partNames : Role → List (String × String)) (hs : (Json.obj s.system).isFinite = true) :
    (Json.obj (s.mappingNamed names partNames)).nesting = (Json.obj s.system).nesting + 1 := by
  have hkairos : (Json.obj s.distribution.mapping).nesting = 1 := rfl
  have hpos : 1 ≤ (Json.obj s.system).nesting := by
    rw [Json.nesting]
    omega
  rw [Snapshot.mappingNamed, Snapshot.shownMembers_system hs, Json.nesting,
    Json.Members.memberNesting_renamed]
  simp only [Json.memberNesting, PartitionState.nesting_renamed, hkairos]
  simp [Json.nesting]

theorem Snapshot.reads_mappingNamed (s : Snapshot) {names : List (String × String)}
    {partNames : Role → List (String × String)} (h : names.Sublist Snapshot.fieldNames)
    (hp : ∀ role, (partNames role).Sublist PartitionState.fieldNames)
    (hs : (Json.obj s.system).isExact = true) {depth : Nat}
    (hd : (Json.obj s.system).nesting < depth) {text : String}
    (ht : (Json.obj (s.mappingNamed names partNames)).write (.indented 2) = .ok text)
    (blanks : List Char) (hb : blanks.all Json.isSpace = true) :
    (Json.ofChars? depth (text.toList ++ blanks)).map Snapshot.ofJson = some (.ok s) := by
  have hfinite := Json.isFinite_of_isExact _ hs
  rw [Json.write] at ht
  split at ht
  next hw =>
    rw [← Except.ok.inj ht, Json.render, String.toList_ofList,
      Json.ofChars?_chars (Json.Style.indented_isReadable 2) (s.isExact_mappingNamed h hp hs) hw
        (by rw [s.nesting_mappingNamed names partNames hfinite]; omega) hb,
      Option.map_some, s.ofJson_mappingNamed h hp hfinite]
  next => cases ht

theorem CommandLine.Command.report_snapshot_eq_ok (s : Snapshot) (r : CommandLine.Report) :
    (CommandLine.Command.report s (.snapshot true)).outcome = .ok r ↔ s.isShallow = true ∧
      ∃ text, (Json.obj s.mapping).write (.indented 2) = .ok text ∧ r = ⟨text ++ "\n", "", 0⟩ := by
  rw [CommandLine.Command.report]
  cases hdump : s.dump with
  | error e =>
    have hdeep : s.isShallow ≠ true := by
      intro h
      rw [Snapshot.dump_of_isShallow h] at hdump
      cases hdump
    rw [Traced.bind_of_error rfl]
    simp [hdeep]
  | ok ms =>
    obtain ⟨hshallow, rfl⟩ := Snapshot.dump_eq_ok_iff.mp hdump
    rw [Traced.bind_of_ok rfl]
    cases (Json.obj s.mapping).write (.indented 2) with
    | error m =>
      rw [Traced.bind_of_error rfl]
      simp
    | ok text =>
      rw [Traced.bind_of_ok rfl]
      simp [hshallow, eq_comm]

theorem Json.exists_write_iff (style : Json.Style) (v : Json) :
    (∃ text, v.write style = .ok text) ↔ v.isWritable = true := by
  rw [Json.write]
  split <;> simp_all

/-- The mapping of a snapshot without infinite and undefined numbers reads back as the snapshot,
with every spelling of its keys. Its indented text is written where no size has too many digits and
the facts about the system do not nest too deeply, and then reads back, too, with every reader that
takes values which nest more deeply than those facts. -/
theorem Snapshot.ofJson_roundTrip (s : Snapshot) {names : List (String × String)}
    {partNames : Role → List (String × String)} (h : names.Sublist Snapshot.fieldNames)
    (hp : ∀ role, (partNames role).Sublist PartitionState.fieldNames) :
    ((Json.obj s.system).isFinite = true → Snapshot.ofJson (.obj s.mapping) = .ok s ∧
      Snapshot.ofJson (.obj (s.mappingNamed names partNames)) = .ok s) ∧
    ((Json.obj s.system).nesting ≤ maxHeight → s.dump = .ok s.mapping) ∧
    ∀ depth, (Json.obj s.system).isExact = true → (Json.obj s.system).isWritable = true →
      (Json.obj s.system).nesting < depth →
      ((∃ r, (CommandLine.Command.report s (.snapshot true)).outcome = .ok r) ↔
        (∃ ms, s.dump = .ok ms) ∧
          ∀ role, (s.partition role).facts.size < 10 ^ Text.Integer.maxDigits) ∧
      (∀ r, (CommandLine.Command.report s (.snapshot true)).outcome = .ok r →
        (Json.ofChars? depth r.output.toList).map Snapshot.ofJson = some (.ok s)) ∧
      ((∃ text, (Json.obj (s.mappingNamed names partNames)).write (.indented 2) = .ok text) ↔
        ∀ role, (s.partition role).facts.size < 10 ^ Text.Integer.maxDigits) ∧
      ∀ text, (Json.obj (s.mappingNamed names partNames)).write (.indented 2) = .ok text →
        (Json.ofChars? depth text.toList).map Snapshot.ofJson = some (.ok s) := by
  -- The mapping itself is the one in which no key is spelled otherwise.
  have hnil := s.mappingNamed_nil
  have hnames : ([] : List (String × String)).Sublist Snapshot.fieldNames := List.nil_sublist _
  have hparts (_ : Role) : ([] : List (String × String)).Sublist PartitionState.fieldNames :=
    List.nil_sublist _
  refine ⟨fun hfinite => ⟨hnil ▸ s.ofJson_mappingNamed hnames hparts hfinite,
    s.ofJson_mappingNamed h hp hfinite⟩,
    fun hdeep => dump_of_isShallow (isShallow_of_nesting_le hdeep), ?_⟩
  intro depth hexact hwritable hdepth
  have hfinite := Json.isFinite_of_isExact _ hexact
  refine ⟨?_, ?_, ?_, ?_⟩
  · simp only [CommandLine.Command.report_snapshot_eq_ok, dump_eq_ok_iff, exists_and_left,
      exists_eq, and_true]
    rw [← s.isWritable_mappingNamed [] (fun _ => []) hfinite hwritable, hnil,
      ← Json.exists_write_iff (.indented 2)]
    exact and_congr_right fun _ =>
      ⟨fun ⟨_, text, ht, _⟩ => ⟨text, ht⟩, fun ⟨text, ht⟩ => ⟨_, text, ht, rfl⟩⟩
  · intro r hr
    obtain ⟨-, text, ht, rfl⟩ := (CommandLine.Command.report_snapshot_eq_ok s r).mp hr
    rw [← hnil] at ht
    have hread := s.reads_mappingNamed hnames hparts hexact hdepth ht ['\n'] rfl
    simpa using hread
  · rw [Json.exists_write_iff, s.isWritable_mappingNamed names partNames hfinite hwritable]
  · intro text ht
    have hread := s.reads_mappingNamed h hp hexact hdepth ht [] rfl
    rwa [List.append_nil] at hread

def Snapshot.sample : Snapshot :=
  { Snapshot.empty with
    oem := .found ⟨"/dev/sda2", "oem", "COS_OEM", "/oem", 512, "ext4", true, ""⟩
    boot := .active
    system := [
      ("node", .obj [("a: \"b\"\n", .str "\x7f\\ é 😀"), ("", .obj [])]),
      ("cpu", .arr [.int (-7), .bool true, .null, .arr [.obj [("cores", .int 40)]]])] }

theorem Snapshot.sample_roundTrip :
    Snapshot.fieldNames.Sublist Snapshot.fieldNames ∧
    (∀ _ : Role, PartitionState.fieldNames.Sublist PartitionState.fieldNames) ∧
    Snapshot.ofJson (.obj (Snapshot.sample.mappingNamed Snapshot.fieldNames
      fun _ => PartitionState.fieldNames)) = .ok Snapshot.sample ∧
    ∃ r, (CommandLine.Command.report Snapshot.sample (.snapshot true)).outcome = .ok r ∧
      (Json.ofText? r.output).map Snapshot.ofJson = some (.ok Snapshot.sample) := by
  have hnames := List.Sublist.refl Snapshot.fieldNames
  have hparts (_ : Role) := List.Sublist.refl PartitionState.fieldNames
  obtain ⟨hfinite, hdump, htext⟩ := Snapshot.ofJson_roundTrip Snapshot.sample hnames hparts
  obtain ⟨hprints, hreads, -⟩ := htext Json.maxDepth (by decide) (by decide) (by decide)
  refine ⟨hnames, hparts, (hfinite (by decide)).2, ?_⟩
  have hsize (role : Role) :
      (Snapshot.sample.partition role).facts.size < 10 ^ Text.Integer.maxDigits := by
    have hsmall : (Snapshot.sample.partition role).facts.size < 10 ^ 3 := by
      cases role <;> decide
    exact hsmall.trans_le (Nat.pow_le_pow_right (by decide) (by decide))
  obtain ⟨r, hr⟩ := hprints.mpr ⟨⟨_, hdump (by decide)⟩, hsize⟩
  exact ⟨r, hr, hreads r hr⟩

end HostSnapshot
