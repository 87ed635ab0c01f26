import HostSnapshot.Proofs.Discovery.Agreement

namespace HostSnapshot

open Traced

/-- Where a partition is mounted and whether it is read-only, given what `findmnt` answers. -/
inductive Partition.IsMounted (p : Partition) (r : ToolResult) : String → Bool → Prop
  | told {m : FoundMount} (hpoint : p.mountPoint = "") (hlabel : p.filesystemLabel ≠ "")
      (hstatus : r.status = 0) (h : FoundMount.Tells r.output m) :
      IsMounted p r m.target (MountOptions.decide m.options.toList p.readOnly)
  | own (h : ¬ (p.mountPoint = "" ∧ p.filesystemLabel ≠ "" ∧ r.status = 0 ∧
      ∃ m, FoundMount.Tells r.output m)) :
      IsMounted p r p.mountPoint p.readOnly

namespace Partition

variable {p : Partition} {r : ToolResult}

theorem IsMounted.eq {point point' : String} {readOnly readOnly' : Bool}
    (h : p.IsMounted r point readOnly) (h' : p.IsMounted r point' readOnly') :
    point = point' ∧ readOnly = readOnly' := by
  cases h with
  | told hpoint hlabel hstatus hm =>
    cases h' with
    | told _ _ _ hn =>
      obtain rfl := hm.eq hn
      exact ⟨rfl, rfl⟩
    | own hnone => exact absurd ⟨hpoint, hlabel, hstatus, _, hm⟩ hnone
  | own hnone =>
    cases h' with
    | told hpoint hlabel hstatus hm => exact absurd ⟨hpoint, hlabel, hstatus, _, hm⟩ hnone
    | own _ => exact ⟨rfl, rfl⟩

theorem wantsMount_iff : p.wantsMount = true ↔ p.mountPoint = "" ∧ p.filesystemLabel ≠ "" := by
  simp [wantsMount]

/-- What `findmnt` has to add. -/
def told? (p : Partition) (r : ToolResult) : Option FoundMount :=
  if p.wantsMount then r.only? FoundMount.listOf? else none

theorem told?_eq_some_iff {m : FoundMount} : p.told? r = some m ↔
    p.mountPoint = "" ∧ p.filesystemLabel ≠ "" ∧ r.status = 0 ∧ FoundMount.Tells r.output m := by
  unfold told?
  rw [← FoundMount.listOf?_eq_singleton_iff, ← ToolResult.only?_eq_some_iff, ← and_assoc,
    ← wantsMount_iff]
  by_cases h : p.wantsMount = true <;> simp [h]

end Partition

namespace View

variable {v w : View} {p : Partition} {r r' : ToolResult}

theorem outcome_partitionState
    (hr : (v.run "findmnt" (findmntArguments p.filesystemLabel)).outcome = .ok r) :
    (v.partitionState p).outcome = (stateWith p (p.told? r)).outcome := by
  rw [partitionState_eq, Partition.told?]
  by_cases h : p.wantsMount = true
  · rw [if_pos h, if_pos h, findmnt, outcome_bind_of_ok (outcome_ask hr)]
  · rw [if_neg h, if_neg h]

/-- A partition has the mount point and the flag of the one file system that `findmnt` tells of, or
keeps both of its own. What `findmnt` prints under other keys is not seen, nor is the order of
members. -/
theorem partitionState_refined (hsize : 0 ≤ p.size)
    (hr : (v.run "findmnt" (findmntArguments p.filesystemLabel)).outcome = .ok r) :
    (∃ point readOnly, p.IsMounted r point readOnly ∧
      (v.partitionState p).outcome = .ok (.found {
        name := "/dev/" ++ p.name
        label := p.label
        filesystemLabel := p.filesystemLabel
        mountPoint := point
        size := p.size.toNat
        type := p.type
        readOnly := readOnly
        uuid := p.uuid })) ∧
    ∀ (w : View) (r' : ToolResult) (printed printed' : Json),
      (w.run "findmnt" (findmntArguments p.filesystemLabel)).outcome = .ok r' →
      r'.status = r.status →
      Json.ofOutput? r.output = some printed → Json.ofOutput? r'.output = some printed' →
      printed.Alike FoundMount.keys printed' →
      (w.partitionState p).outcome = (v.partitionState p).outcome := by
  constructor
  · rw [outcome_partitionState hr]
    cases htold : p.told? r with
    | none =>
      refine ⟨p.mountPoint, p.readOnly, .own ?_, p.state_eq hsize _ _⟩
      rintro ⟨hpoint, hlabel, hstatus, m, hm⟩
      rw [Partition.told?_eq_some_iff.mpr ⟨hpoint, hlabel, hstatus, hm⟩] at htold
      cases htold
    | some m =>
      obtain ⟨hpoint, hlabel, hstatus, hm⟩ := Partition.told?_eq_some_iff.mp htold
      refine ⟨_, _, .told hpoint hlabel hstatus hm, ?_⟩
      rw [stateWith, outcome_bind_of_ok (MountOptions.outcome_readOnly _ _)]
      exact p.state_eq hsize _ _
  · intro w r' printed printed' hr' hstatus hprinted hprinted' halike
    -- Edits outside of the known keys do not change what was told.
    have htold : p.told? r' = p.told? r := by
      unfold Partition.told? ToolResult.only? ToolResult.succeeded
      rw [hstatus, FoundMount.listOf?_of_alike hprinted hprinted' halike]
    rw [outcome_partitionState hr, outcome_partitionState hr', htold]

def otherFoundMount : Json :=
  .obj [("version", .int 2), ("filesystems", .arr [.obj [("fs-options",
    .str "rw,errors=remount-ro,ro"), ("target", .str "/run/my disk"), ("children", .arr [])]])]

theorem foundMount_alike : foundMount.Alike FoundMount.keys otherFoundMount := by
  have hreordered : Json.Edit FoundMount.keys
      (.obj [("target", .str "/run/my disk"), ("fs-options", .str "rw,errors=remount-ro,ro")])
      (.obj [("fs-options", .str "rw,errors=remount-ro,ro"), ("target", .str "/run/my disk")]) :=
    .reorder (by decide) (.swap _ _ [])
  have hadded : Json.Edit FoundMount.keys
      (.obj [("fs-options", .str "rw,errors=remount-ro,ro"), ("target", .str "/run/my disk")])
      (.obj [("fs-options", .str "rw,errors=remount-ro,ro"), ("target", .str "/run/my disk"),
        ("children", .arr [])]) :=
    @Json.Edit.add _ [_, _] [] _ _ (by decide)
  -- Both edits are within the one item, then the outer object gets a member.
  have hwithin {v w : Json} (h : Json.Edit FoundMount.keys v w) : Json.Edit FoundMount.keys
      (.obj [("filesystems", .arr [v])]) (.obj [("filesystems", .arr [w])]) :=
    @Json.Edit.member _ [] [] _ _ _ (@Json.Edit.item _ [] [] _ _ h)
  exact .trans _ _ _ (.rel _ _ (hwithin hreordered)) (.trans _ _ _ (.rel _ _ (hwithin hadded))
    (.rel _ _ (@Json.Edit.add _ [] [_] _ _ (by decide))))

def unmounted : Partition := ⟨"sda2", "ext4", "", 2097152, "", "COS_STATE", "", false⟩

theorem unmounted_refined :
    0 ≤ unmounted.size ∧ ∀ printed ∈ [foundMount, otherFoundMount],
      ((sampleWith "" (printed.render .spaced)).run "findmnt"
        (findmntArguments unmounted.filesystemLabel)).outcome =
          .ok ⟨printed.render .spaced, "", 0⟩ ∧
      ((sampleWith "" (printed.render .spaced)).partitionState unmounted).outcome =
        .ok (.found ⟨"/dev/sda2", "", "COS_STATE", "/run/my disk", 2097152, "ext4", true, ""⟩) := by
  have hsize : 0 ≤ unmounted.size := by decide
  have hrun (printed : Json) : ((sampleWith "" (printed.render .spaced)).run "findmnt"
      (findmntArguments unmounted.filesystemLabel)).outcome =
        .ok ⟨printed.render .spaced, "", 0⟩ := outcome_run_of_ok rfl
  have hread : Json.ofOutput? (foundMount.render .spaced) = some foundMount :=
    Json.ofOutput?_render Json.Style.spaced_isReadable rfl rfl (by decide)
  have hread' : Json.ofOutput? (otherFoundMount.render .spaced) = some otherFoundMount :=
    Json.ofOutput?_render Json.Style.spaced_isReadable rfl rfl (by decide)
  have htells : FoundMount.Tells (foundMount.render .spaced)
      ⟨"/run/my disk", "rw,errors=remount-ro,ro"⟩ :=
    ⟨_, _, hread, rfl, .text rfl, .text rfl⟩
  obtain ⟨⟨point, readOnly, hmounted, hstate⟩, halike⟩ :=
    partitionState_refined hsize (hrun foundMount)
  obtain ⟨rfl, rfl⟩ := hmounted.eq (.told rfl (by decide) rfl htells)
  have hother := halike _ _ _ _ (hrun otherFoundMount) rfl hread hread' foundMount_alike
  refine ⟨hsize, fun printed hprinted => ⟨hrun printed, ?_⟩⟩
  rw [List.mem_pair] at hprinted
  rcases hprinted with rfl | rfl
  · exact hstate
  · exact hother.trans hstate

end View

end HostSnapshot
