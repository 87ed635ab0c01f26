import HostSnapshot.Proofs.Discovery.Agreement
import HostSnapshot.Proofs.Json.Field

namespace HostSnapshot

open Traced

namespace FoundDevice

def keys : List String :=
  ["blockdevices", "path", "mountpoint", "fstype", "size", "label", "ro"]

/-- The flag of a device; null and nothing are read as false. -/
inductive HasFlag (ms : Json.Members) : Bool → Prop
  | missing (h : ms.find? "ro" = none) : HasFlag ms false
  | null (h : ms.find? "ro" = some .null) : HasFlag ms false
  | flag {v : Json} {b : Bool} (h : ms.find? "ro" = some v) (hb : Json.IsFlag v b) : HasFlag ms b

/-- What the members of a device say of it. The path must not be null. The size is text like the
others, but nothing is kept of it. -/
structure IsRead (ms : Json.Members) (d : FoundDevice) : Prop where
  path : ms.Says "path" d.path
  pathThere : ms.find? "path" ≠ some .null
  mountPoint : ms.Says "mountpoint" d.mountPoint
  type : ms.Says "fstype" d.type
  size : ∃ s, ms.Says "size" s
  label : ms.Says "label" d.label
  readOnly : HasFlag ms d.readOnly

/-- An output that tells of one device only. -/
def Tells (output : String) (d : FoundDevice) : Prop :=
  ∃ ms fields : Json.Members, Json.ofOutput? output = some (.obj ms) ∧
    ms.find? "blockdevices" = some (.arr [.obj fields]) ∧ IsRead fields d

variable {ms ms' : Json.Members}

def path? (ms : Json.Members) : Option String :=
  match ms.find? "path" with
  | some .null => none
  | _ => ms.optionalText? "path"

theorem ofMembers?_eq (ms : Json.Members) : ofMembers? ms = do
    let path ← path? ms
    let mountPoint ← ms.optionalText? "mountpoint"
    let type ← ms.optionalText? "fstype"
    let _ ← ms.optionalText? "size"
    let label ← ms.optionalText? "label"
    let readOnly ← flag? ms
    return ⟨path, mountPoint, type, label, readOnly⟩ := by
  unfold ofMembers? path?
  cases ms.find? "path" with
  | none => rfl
  | some v => cases v <;> rfl

theorem path?_eq_some_iff {s : String} :
    path? ms = some s ↔ ms.Says "path" s ∧ ms.find? "path" ≠ some .null := by
  rw [← Json.Members.optionalText?_eq_some_iff, path?]
  split
  · next hnull => simp [hnull]
  · next hnull => exact ⟨fun h => ⟨h, hnull⟩, And.left⟩

theorem flag?_eq_some_iff {b : Bool} : flag? ms = some b ↔ HasFlag ms b := by
  have hread {v : Json} : (Json.readFlag v).toOption = some b ↔ Json.IsFlag v b := by
    rw [← Json.readFlag_eq_ok_iff]
    cases Json.readFlag v <;> simp [Except.toOption]
  unfold flag?
  constructor
  · intro h
    split at h
    · next hnone =>
      cases h
      exact .missing hnone
    · next hnull =>
      cases h
      exact .null hnull
    · next hv => exact .flag hv (hread.mp h)
  · rintro (hnone | hnull | @⟨v, _, hv, hb⟩)
    · rw [hnone]
    · rw [hnull]
    · rw [hv]
      cases v with
      | null => cases hb
      | _ => exact hread.mpr hb

theorem ofMembers?_eq_some_iff {d : FoundDevice} : ofMembers? ms = some d ↔ IsRead ms d := by
  rw [ofMembers?_eq]
  simp only [Option.bind_eq_bind, Option.bind_eq_some_iff, path?_eq_some_iff, flag?_eq_some_iff,
    Json.Members.optionalText?_eq_some_iff]
  constructor
  · rintro ⟨path, ⟨hpath, hthere⟩, point, hpoint, type, htype, size, hsize, label, hlabel, readOnly,
      hflag, ⟨⟩⟩
    exact ⟨hpath, hthere, hpoint, htype, ⟨size, hsize⟩, hlabel, hflag⟩
  · rintro ⟨hpath, hthere, hpoint, htype, ⟨size, hsize⟩, hlabel, hflag⟩
    exact ⟨_, ⟨hpath, hthere⟩, _, hpoint, _, htype, size, hsize, _, hlabel, _, hflag, rfl⟩

theorem listOf?_eq_singleton_iff {output : String} {d : FoundDevice} :
    listOf? output = some [d] ↔ Tells output d := by
  unfold listOf? Tells
  rw [Option.bind_eq_bind, Json.bind_readRecords?_eq_singleton_iff]
  simp only [ofMembers?_eq_some_iff]

theorem Tells.eq {output : String} {d e : FoundDevice} (hd : Tells output d)
    (he : Tells output e) : d = e := by
  rw [← listOf?_eq_singleton_iff] at hd he
  rw [hd] at he
  cases he
  rfl

inductive IsOptionalText : Json → Prop
  | null : IsOptionalText .null
  | text (s : String) : IsOptionalText (.str s)

/-- An edit of what is printed: one outside of the known keys, or another size of a device. -/
inductive Edit : Json → Json → Prop
  | other {v w : Json} (h : Json.Edit keys v w) : Edit v w
  | size {above below ms ms' : Json.Members} {before after : List Json} {v w : Json}
      (hv : IsOptionalText v) (hw : IsOptionalText w) :
      Edit
        (.obj (above ++ ("blockdevices",
          .arr (before ++ .obj (ms ++ ("size", v) :: ms') :: after)) :: below))
        (.obj (above ++ ("blockdevices",
          .arr (before ++ .obj (ms ++ ("size", w) :: ms') :: after)) :: below))

/-- A device is read by what stands under its keys; of the size it only matters whether it can be
read. -/
theorem ofMembers?_congr (hpath : path? ms = path? ms')
    (htext : ∀ key ∈ ["mountpoint", "fstype", "label"],
      ms.optionalText? key = ms'.optionalText? key)
    (hsize : (ms.optionalText? "size").isSome = (ms'.optionalText? "size").isSome)
    (hflag : flag? ms = flag? ms') : ofMembers? ms = ofMembers? ms' := by
  rw [ofMembers?_eq, ofMembers?_eq, hpath, htext "mountpoint" (by decide),
    htext "fstype" (by decide), htext "label" (by decide), hflag]
  cases hs : ms.optionalText? "size" with
  | none =>
    cases hs' : ms'.optionalText? "size" with
    | none => rfl
    | some _ =>
      rw [hs, hs'] at hsize
      cases hsize
  | some _ =>
    cases hs' : ms'.optionalText? "size" with
    | none =>
      rw [hs, hs'] at hsize
      cases hsize
    | some _ => rfl

theorem ofMembers?_of_edit (h : Json.Edit keys (.obj ms) (.obj ms')) :
    ofMembers? ms = ofMembers? ms' := by
  apply ofMembers?_congr
  · unfold path?
    rw [h.optionalText?_eq (by decide)]
    rcases h.find?_shapes (k := "path") (by decide) with heq | ⟨_, _, hv, hw⟩ | ⟨_, _, hv, hw⟩
    · rw [heq]
    · rw [hv, hw]
    · rw [hv, hw]
  · have hknown : ∀ key ∈ ["mountpoint", "fstype", "label"], key ∈ keys := by decide
    exact fun key hkey => h.optionalText?_eq (hknown key hkey)
  · rw [h.optionalText?_eq (by decide)]
  · unfold flag?
    rcases h.find?_shapes (k := "ro") (by decide) with heq | ⟨_, _, hv, hw⟩ | ⟨_, _, hv, hw⟩
    · rw [heq]
    · rw [hv, hw]
      rfl
    · rw [hv, hw]
      rfl

theorem isSome_optionalText? {key : String} {v : Json} (h : ms.find? key = some v)
    (hv : IsOptionalText v) : (ms.optionalText? key).isSome = true := by
  cases hv with
  | null => rw [Json.Members.optionalText?_eq_some_iff.mpr (.null h), Option.isSome_some]
  | text s => rw [Json.Members.optionalText?_eq_some_iff.mpr (.text h), Option.isSome_some]

theorem ofMembers?_size {v w : Json} (hv : IsOptionalText v) (hw : IsOptionalText w) :
    ofMembers? (ms ++ ("size", v) :: ms') = ofMembers? (ms ++ ("size", w) :: ms') := by
  have hfind {key : String} (hkey : key ≠ "size") :
      Json.Members.find? (ms ++ ("size", v) :: ms') key =
        Json.Members.find? (ms ++ ("size", w) :: ms') key := by
    rw [Json.Members.find?_append_cons_of_ne _ _ _ hkey,
      Json.Members.find?_append_cons_of_ne _ _ _ hkey]
  have htext {key : String} (hkey : key ≠ "size") :
      Json.Members.optionalText? (ms ++ ("size", v) :: ms') key =
        Json.Members.optionalText? (ms ++ ("size", w) :: ms') key := by
    unfold Json.Members.optionalText?
    rw [hfind hkey]
  apply ofMembers?_congr
  · unfold path?
    rw [hfind (by decide), htext (by decide)]
  · have hother : ∀ key ∈ ["mountpoint", "fstype", "label"], key ≠ "size" := by decide
    exact fun key hkey => htext (hother key hkey)
  · have hsize (u : Json) : Json.Members.find? (ms ++ ("size", u) :: ms') "size" =
        (ms.find? "size").or (some u) :=
      Json.Members.find?_append_cons_self ms ms' "size" u
    -- An earlier member of that key hides the size; otherwise both are texts or null.
    cases hms : ms.find? "size" with
    | some u =>
      unfold Json.Members.optionalText?
      rw [hsize, hsize, hms, Option.some_or, Option.some_or]
    | none =>
      rw [hms] at hsize
      rw [isSome_optionalText? (hsize v) hv, isSome_optionalText? (hsize w) hw]
  · unfold flag?
    rw [hfind (by decide)]

theorem readRecords?_of_edit {v w : Json} (h : Edit v w) :
    Json.readRecords? "blockdevices" ofMembers? v =
      Json.readRecords? "blockdevices" ofMembers? w := by
  cases h with
  | other h => exact h.readRecords?_eq (fun _ _ => ofMembers?_of_edit) (by decide)
  | @size above below ms ms' before after v w hv hw =>
    have hfind (u : Json) : Json.Members.find? (above ++ ("blockdevices", u) :: below)
        "blockdevices" = (above.find? "blockdevices").or (some u) :=
      Json.Members.find?_append_cons_self above below "blockdevices" u
    cases habove : above.find? "blockdevices" with
    | some list =>
      unfold Json.readRecords?
      dsimp only
      rw [hfind, hfind, habove, Option.some_or, Option.some_or]
    | none =>
      rw [habove] at hfind
      have hread : Json.readRecord? ofMembers? (.obj (ms ++ ("size", v) :: ms')) =
          Json.readRecord? ofMembers? (.obj (ms ++ ("size", w) :: ms')) := ofMembers?_size hv hw
      rw [Json.readRecords?_of_items (hfind _), Json.readRecords?_of_items (hfind _),
        List.mapM_append, List.mapM_append, List.mapM_cons, List.mapM_cons, hread]

theorem listOf?_of_edits {output output' : String} {v w : Json}
    (hv : Json.ofOutput? output = some v) (hw : Json.ofOutput? output' = some w)
    (h : Relation.EqvGen Edit v w) : listOf? output = listOf? output' := by
  unfold listOf?
  rw [hv, hw]
  exact Json.congr_of_eqvGen (f := Json.readRecords? "blockdevices" ofMembers?)
    (fun _ _ => readRecords?_of_edit) h

/-- The state that `lsblk` tells of. -/
inductive IsVolume (r : ToolResult) : PartitionState → Prop
  | told {d : FoundDevice} (hstatus : r.status = 0) (h : Tells r.output d) :
      IsVolume r (.found {
        name := d.path
        label := ""
        filesystemLabel := d.label
        mountPoint := d.mountPoint
        size := 0
        type := d.type
        readOnly := d.readOnly
        uuid := "" })
  | nothing (h : ¬ (r.status = 0 ∧ ∃ d, Tells r.output d)) : IsVolume r .absent

theorem IsVolume.eq {r : ToolResult} {state state' : PartitionState} (h : IsVolume r state)
    (h' : IsVolume r state') : state = state' := by
  cases h with
  | told hstatus hd =>
    cases h' with
    | told _ he => rw [hd.eq he]
    | nothing hnone => exact absurd ⟨hstatus, _, hd⟩ hnone
  | nothing hnone =>
    cases h' with
    | told hstatus hd => exact absurd ⟨hstatus, _, hd⟩ hnone
    | nothing _ => rfl

end FoundDevice

namespace View

variable {v : View} {label : String} {r : ToolResult}

theorem outcome_volumeState
    (hr : (v.run "lsblk" (lsblkArguments label)).outcome = .ok r) :
    (v.volumeState label).outcome =
      .ok (((r.only? FoundDevice.listOf?).map FoundDevice.state).getD .absent) := by
  unfold volumeState lsblk
  rw [outcome_bind_of_ok (outcome_ask hr)]
  cases r.only? FoundDevice.listOf? <;> rfl

/-- A label has the state of the one device that `lsblk` tells of, and none in every other case.
What `lsblk` prints under other keys is not seen, nor are the sizes of devices and the order of
members. -/
theorem volumeState_told (hr : (v.run "lsblk" (lsblkArguments label)).outcome = .ok r) :
    (∃ state, FoundDevice.IsVolume r state ∧ (v.volumeState label).outcome = .ok state) ∧
    ∀ (w : View) (r' : ToolResult) (printed printed' : Json),
      (w.run "lsblk" (lsblkArguments label)).outcome = .ok r' → r'.status = r.status →
      Json.ofOutput? r.output = some printed → Json.ofOutput? r'.output = some printed' →
      Relation.EqvGen FoundDevice.Edit printed printed' →
      (w.volumeState label).outcome = (v.volumeState label).outcome := by
  constructor
  · rw [outcome_volumeState hr]
    cases hold : r.only? FoundDevice.listOf? with
    | none =>
      refine ⟨.absent, .nothing ?_, rfl⟩
      rintro ⟨hstatus, d, hd⟩
      rw [ToolResult.only?_eq_some_iff.mpr
        ⟨hstatus, FoundDevice.listOf?_eq_singleton_iff.mpr hd⟩] at hold
      cases hold
    | some d =>
      obtain ⟨hstatus, hread⟩ := ToolResult.only?_eq_some_iff.mp hold
      exact ⟨_, .told hstatus (FoundDevice.listOf?_eq_singleton_iff.mp hread), rfl⟩
  · intro w r' printed printed' hr' hstatus hprinted hprinted' hedits
    have honly : r'.only? FoundDevice.listOf? = r.only? FoundDevice.listOf? := by
      unfold ToolResult.only? ToolResult.succeeded
      rw [hstatus, FoundDevice.listOf?_of_edits hprinted hprinted' hedits]
    rw [outcome_volumeState hr, outcome_volumeState hr', honly]

def foundVolume : Json :=
  .obj [("blockdevices", .arr [.obj [("path", .str "/dev/mapper/vg-oem"), ("mountpoint", .null),
    ("size", .str "64M"), ("ro", .str "1"), ("label", .str "COS_OEM")]])]

def otherFoundVolume : Json :=
  .obj [("blockdevices", .arr [.obj [("path", .str "/dev/mapper/vg-oem"), ("mountpoint", .null),
    ("size", .null), ("ro", .str "1"), ("label", .str "COS_OEM"), ("children", .arr [])]])]

theorem foundVolume_edits :
    Relation.EqvGen FoundDevice.Edit foundVolume otherFoundVolume := by
  have hsize : FoundDevice.Edit foundVolume
      (.obj [("blockdevices", .arr [.obj [("path", .str "/dev/mapper/vg-oem"),
        ("mountpoint", .null), ("size", .null), ("ro", .str "1"), ("label", .str "COS_OEM")]])]) :=
    @FoundDevice.Edit.size [] [] [_, _] [_, _] [] [] _ _ (.text "64M") .null
  have hadded : Json.Edit FoundDevice.keys
      (.obj [("path", .str "/dev/mapper/vg-oem"), ("mountpoint", .null), ("size", .null),
        ("ro", .str "1"), ("label", .str "COS_OEM")])
      (.obj [("path", .str "/dev/mapper/vg-oem"), ("mountpoint", .null), ("size", .null),
        ("ro", .str "1"), ("label", .str "COS_OEM"), ("children", .arr [])]) :=
    @Json.Edit.add _ [_, _, _, _, _] [] _ _ (by decide)
  exact .trans _ _ _ (.rel _ _ hsize) (.rel _ _ (.other
    (@Json.Edit.member _ [] [] _ _ _ (@Json.Edit.item _ [] [] _ _ hadded))))

def answering (printed : Json) : View := sampleWith "" (printed.render .spaced)

theorem foundVolume_told :
    ((answering foundVolume).run "lsblk" (lsblkArguments "COS_OEM")).outcome =
      .ok ⟨foundVolume.render .spaced, "", 0⟩ ∧
    ((answering foundVolume).volumeState "COS_OEM").outcome =
      .ok (.found ⟨"/dev/mapper/vg-oem", "", "COS_OEM", "", 0, "", true, ""⟩) ∧
    ((answering otherFoundVolume).volumeState "COS_OEM").outcome =
      ((answering foundVolume).volumeState "COS_OEM").outcome := by
  have hrun (printed : Json) : ((answering printed).run "lsblk"
      (lsblkArguments "COS_OEM")).outcome = .ok ⟨printed.render .spaced, "", 0⟩ :=
    outcome_run_of_ok rfl
  have hread : Json.ofOutput? (foundVolume.render .spaced) = some foundVolume :=
    Json.ofOutput?_render Json.Style.spaced_isReadable rfl rfl (by decide)
  have hread' : Json.ofOutput? (otherFoundVolume.render .spaced) = some otherFoundVolume :=
    Json.ofOutput?_render Json.Style.spaced_isReadable rfl rfl (by decide)
  have hflag : Json.IsFlag (.str "1") true := by
    rw [← Json.readFlag_eq_ok_iff]
    decide
  have htells : FoundDevice.Tells (foundVolume.render .spaced)
      ⟨"/dev/mapper/vg-oem", "", "", "COS_OEM", true⟩ :=
    ⟨_, _, hread, rfl, .text rfl, nofun, .null rfl, .missing rfl, ⟨_, .text rfl⟩, .text rfl,
      .flag rfl hflag⟩
  obtain ⟨⟨state, hvolume, hstate⟩, hedits⟩ := volumeState_told (hrun foundVolume)
  rw [hvolume.eq (.told rfl htells)] at hstate
  exact ⟨hrun foundVolume, hstate,
    hedits _ _ _ _ (hrun otherFoundVolume) rfl hread hread' foundVolume_edits⟩

end View

end HostSnapshot
