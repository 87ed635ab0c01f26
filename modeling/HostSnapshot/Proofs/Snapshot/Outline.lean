import HostSnapshot.Proofs.Snapshot.Rendering
import HostSnapshot.Proofs.Snapshot.ScalarLine

namespace HostSnapshot

namespace Json

/-- An entry of an object: the keys of the objects that it stands in, its own key and its value. -/
structure Entry where
  above : List String
  key : String
  value : Json

def Entry.below (name : String) (e : Entry) : Entry := { e with above := name :: e.above }

mutual

/-- The entries below a value, depth first. -/
def entries : Json → List Entry
  | .obj ms => memberEntries ms
  | _ => []

def memberEntries : List (String × Json) → List Entry
  | [] => []
  | (k, v) :: ms => ⟨[], k, v⟩ :: (entries v).map (Entry.below k) ++ memberEntries ms

end

/-- The line of an entry: four spaces for each object around it, its key, a colon and, unless it has
entries below it, its scalar. -/
def Entry.line (e : Entry) : List Char :=
  List.replicate (4 * e.above.length) ' ' ++ (e.key.toList ++ ':' :: match e.value with
    | .obj (_ :: _) => []
    | v => ' ' :: v.scalar.toList)

def Entry.textLine (depth : Nat) (e : Entry) : TextLine :=
  ⟨depth + e.above.length, e.key, e.value.leaf?⟩

theorem Entry.textLine_below (depth : Nat) (name : String) (e : Entry) :
    (e.below name).textLine depth = e.textLine (depth + 1) := by
  simp only [textLine, below, List.length_cons, TextLine.mk.injEq, and_true]
  omega

theorem Entry.chars_textLine (e : Entry) : (e.textLine 0).chars = e.line ++ ['\n'] := by
  obtain ⟨above, key, value⟩ := e
  unfold textLine TextLine.chars line leaf?
  cases value with
  | obj ms => cases ms <;> simp
  | _ => simp

mutual

theorem textLines_eq_map : ∀ (v : Json) (depth : Nat),
    textLines depth v = (entries v).map (Entry.textLine depth)
  | .obj ms, depth => memberLines_eq_map ms depth
  | .null, _ => rfl
  | .bool _, _ => rfl
  | .int _, _ => rfl
  | .float _, _ => rfl
  | .str _, _ => rfl
  | .arr _, _ => rfl

theorem memberLines_eq_map : ∀ (ms : List (String × Json)) (depth : Nat),
    memberLines depth ms = (memberEntries ms).map (Entry.textLine depth)
  | [], _ => rfl
  | (k, v) :: ms, depth => by
    have hbelow : (Entry.textLine depth ∘ Entry.below k) = Entry.textLine (depth + 1) := by
      funext e
      exact Entry.textLine_below depth k e
    rw [memberLines, memberEntries, textLines_eq_map v, memberLines_eq_map ms, List.cons_append,
      List.cons_append, List.map_cons, List.map_append, List.map_map, hbelow]
    rfl

end

mutual

theorem map_key_entries_shown : ∀ v : Json,
    (entries (shown v)).map (·.key) = (entries v).map (·.key)
  | .obj ms => map_key_memberEntries_shownMembers ms
  | .null => rfl
  | .bool _ => rfl
  | .int _ => rfl
  | .float x => by
    rw [shown]
    split <;> rfl
  | .str _ => rfl
  | .arr _ => rfl

theorem map_key_memberEntries_shownMembers : ∀ ms : List (String × Json),
    (memberEntries (shownMembers ms)).map (·.key) = (memberEntries ms).map (·.key)
  | [] => rfl
  | (k, v) :: ms => by
    have hbelow : ((·.key) ∘ Entry.below k) = (·.key) := rfl
    rw [shownMembers, memberEntries, memberEntries]
    simp only [List.cons_append, List.map_cons, List.map_append, List.map_map, hbelow,
      map_key_entries_shown v, map_key_memberEntries_shownMembers ms]

end

mutual

theorem isWritable_eq_all : ∀ (v : Json) (depth : Nat), v.isWritable =
    (v.leaf?.all isWritable && (textLines depth v).all TextLine.isWritable)
  | .obj [], _ => rfl
  | .obj (m :: ms), depth => membersWritable_eq_all (m :: ms) depth
  | .null, _ => rfl
  | .bool _, _ => rfl
  | .int n, _ => by simp [leaf?, textLines]
  | .float _, _ => rfl
  | .str _, _ => rfl
  | .arr vs, _ => by simp [leaf?, textLines]

theorem membersWritable_eq_all : ∀ (ms : List (String × Json)) (depth : Nat),
    membersWritable ms = (memberLines depth ms).all TextLine.isWritable
  | [], _ => rfl
  | (k, v) :: ms, depth => by
    rw [membersWritable, memberLines, isWritable_eq_all v (depth + 1),
      membersWritable_eq_all ms depth]
    simp [TextLine.isWritable, Bool.and_assoc]

end

end Json

namespace Snapshot

variable {s : Snapshot} {p : Char → Bool}

def entries (s : Snapshot) : List Json.Entry := Json.memberEntries s.mapping

theorem flatMap_chars (s : Snapshot) :
    s.lines.flatMap TextLine.chars = (s.entries.map Json.Entry.line).flatMap (· ++ ['\n']) := by
  rw [lines, Json.memberLines_eq_map, entries, List.flatMap_map, List.flatMap_map]
  congr 1
  funext e
  exact e.chars_textLine

theorem all_isWritable_lines (s : Snapshot) :
    s.lines.all TextLine.isWritable = (Json.obj s.mapping).isWritable :=
  (Json.membersWritable_eq_all s.mapping 0).symm

def roleKeys (role : Role) : List String :=
  [role.name, "mounted", "name", "label", "filesystemlabel", "mount_point", "size_bytes", "type",
    "read_only", "found", "uuid"]

theorem keys_entries (s : Snapshot) : s.entries.map (·.key) =
    "uuid" :: Role.all.flatMap roleKeys ++ ["boot", "system"] ++
      (Json.memberEntries s.system).map (·.key) ++ ["kairos", "flavor", "version"] := by
  rw [← Json.map_key_memberEntries_shownMembers]
  simp only [entries, mapping, Json.memberEntries, List.map_cons, List.map_append, List.map_map]
  rfl

theorem isFree_of_isLineEnd (hends : ∀ c, p c = true → Text.isLineEnd c = true) {c : Char}
    (h : Text.isLineEnd c = false) : p c = false := by
  rw [← Bool.not_eq_true]
  intro hp
  rw [hends c hp] at h
  cases h

/-- Only the system of a snapshot can bring line breaks into the keys. -/
theorem isFree_key (hends : ∀ c, p c = true → Text.isLineEnd c = true)
    (hkeys : ∀ e ∈ Json.memberEntries s.system, ∀ c ∈ e.key.toList, p c = false) :
    ∀ e ∈ s.entries, ∀ c ∈ e.key.toList, p c = false := by
  have hfirst : ∀ key ∈ "uuid" :: Role.all.flatMap roleKeys ++ ["boot", "system"],
      key.toList.all (!Text.isLineEnd ·) = true := by decide
  have hlast : ∀ key ∈ ["kairos", "flavor", "version"],
      key.toList.all (!Text.isLineEnd ·) = true := by decide
  intro e he c hc
  have hkey := List.mem_map_of_mem (f := (·.key)) he
  rw [keys_entries] at hkey
  rcases List.mem_append.mp hkey with hkey | hkey
  · rcases List.mem_append.mp hkey with hkey | hkey
    · exact isFree_of_isLineEnd hends (Text.forall_of_all (hfirst _ hkey) c hc)
    · obtain ⟨e', he', heq⟩ := List.mem_map.mp hkey
      exact hkeys e' he' c (heq ▸ hc)
  · exact isFree_of_isLineEnd hends (Text.forall_of_all (hlast _ hkey) c hc)

/-- A leaf keeps to its line unless it is a plain text with a line feed after it. -/
theorem isFree_scalar {v : Json} (hv : ∀ t, v = .str t → ¬ Scalar.IsPlainLine t) :
    ∀ c ∈ v.scalar.toList, Text.isLineEnd c = false := by
  -- Whatever does not stand bare is JSON on one line.
  rcases v.scalar_cases with ⟨t, rfl, -, -⟩ | hscalar
  · exact (Scalar.stands_iff.mpr (hv t rfl)).line
  · rw [hscalar]
    intro c hc
    exact Text.isLineEnd_of_isShown (Json.areShown_chars Json.Style.spaced_isOneLine v 0 c hc)

theorem isFree_line (hends : ∀ c, p c = true → Text.isLineEnd c = true) {e : Json.Entry}
    (hkey : ∀ c ∈ e.key.toList, p c = false)
    (hv : ∀ t, e.value = .str t → ¬ Scalar.IsPlainLine t) : ∀ c ∈ e.line, p c = false := by
  have hspace : p ' ' = false := isFree_of_isLineEnd hends rfl
  have hcolon : p ':' = false := isFree_of_isLineEnd hends rfl
  have hleaf : ∀ c ∈ ' ' :: e.value.scalar.toList, p c = false := by
    rw [List.forall_mem_cons]
    exact ⟨hspace, fun c hc => isFree_of_isLineEnd hends (isFree_scalar hv c hc)⟩
  unfold Json.Entry.line
  rw [List.forall_mem_append, List.forall_mem_append, List.forall_mem_cons]
  refine ⟨?_, hkey, hcolon, ?_⟩
  · intro c hc
    rwa [List.eq_of_mem_replicate hc]
  · split
    · simp
    · exact hleaf

/-- The rendering of a snapshot is one line for each of its entries if every leaf keeps to its line
and can be written. -/
theorem render_outline_iff (hbreak : p '\n' = true)
    (hends : ∀ c, p c = true → Text.isLineEnd c = true)
    (hkeys : ∀ e ∈ Json.memberEntries s.system, ∀ c ∈ e.key.toList, p c = false) :
    (∃ text, (s.render .plain).outcome = .ok text ∧
      Text.pieces p text.toList = s.entries.map Json.Entry.line ++ [[]]) ↔
      s.isShallow = true ∧ (Json.obj s.mapping).isWritable = true ∧
        ∀ e ∈ s.entries, ∀ t, e.value = .str t → ¬ Scalar.IsPlainLine t := by
  constructor
  · rintro ⟨text, htext, hpieces⟩
    have hshallow := isShallow_of_render htext
    refine ⟨hshallow, ?_⟩
    rw [render_plain hshallow, all_isWritable_lines, flatMap_chars] at htext
    by_cases hw : (Json.obj s.mapping).isWritable = true
    · refine ⟨hw, ?_⟩
      -- The line of such a leaf would be a piece with a line feed in it, and pieces have none.
      intro e he t ht hline
      have hfree := Text.isFree_of_mem_pieces (p := p) (s := text.toList) (w := e.line)
        (hpieces ▸ List.mem_append_left _ (List.mem_map_of_mem he))
      have hmem : '\n' ∈ e.line := by
        obtain ⟨w, -, hs⟩ := id hline
        unfold Json.Entry.line
        rw [ht]
        dsimp only
        rw [Scalar.scalar_of_standsBare (Scalar.standsBare_of_isPlainLine hline), hs]
        simp
      rw [hfree _ hmem] at hbreak
      cases hbreak
    · rw [if_neg hw] at htext
      cases htext
  · rintro ⟨hshallow, hw, hleaves⟩
    rw [render_plain hshallow, all_isWritable_lines, flatMap_chars, if_pos hw]
    refine ⟨_, rfl, ?_⟩
    rw [String.toList_ofList]
    apply Text.pieces_flatMap hbreak
    intro w hw
    obtain ⟨e, he, rfl⟩ := List.mem_map.mp hw
    exact isFree_line hends (isFree_key hends hkeys e he) (hleaves e he)

/-- A text leaf stands on one line, reads back, and does not look like anything else without quotes,
exactly if it is not a plain text with a line feed after it; the words that are numbers in JSON are
the two that look like a name. So the rendering of a snapshot, whatever is taken for a line break
from the line feed alone to all ends of lines, is one line for each entry of the mapping, depth
first, with a line feed after it, exactly if it has no such leaf, its integers can be written and
the facts about the system do not nest too deeply. -/
theorem outline_iff (t : String) :
    ((Scalar.Stands t ↔ ¬ Scalar.IsPlainLine t) ∧ (¬ Scalar.IsPlainLine t →
      ((∃ v, Json.ofText? (Json.str t).scalar = some v ∧ v.isNumber = true) ↔
        t = "NaN" ∨ t = "Infinity"))) ∧
    ∀ (s : Snapshot) (p : Char → Bool), p '\n' = true →
      (∀ c, p c = true → Text.isLineEnd c = true) →
      (∀ e ∈ Json.memberEntries s.system, ∀ c ∈ e.key.toList, p c = false) →
      ((∃ text, (s.render .plain).outcome = .ok text ∧
        Text.pieces p text.toList = s.entries.map Json.Entry.line ++ [[]] ∧
        ∀ line ∈ s.entries.map Json.Entry.line, line ≠ []) ↔
        s.isShallow = true ∧ (Json.obj s.mapping).isWritable = true ∧
          ∀ e ∈ s.entries, ∀ t, e.value = .str t → ¬ Scalar.IsPlainLine t) := by
  refine ⟨⟨Scalar.stands_iff, Scalar.exists_number_iff⟩, ?_⟩
  intro s p hbreak hends hkeys
  have hne : ∀ line ∈ s.entries.map Json.Entry.line, line ≠ [] := by
    simp [Json.Entry.line]
  rw [← render_outline_iff hbreak hends hkeys]
  constructor
  · rintro ⟨text, htext, hpieces, -⟩
    exact ⟨text, htext, hpieces⟩
  · rintro ⟨text, htext, hpieces⟩
    exact ⟨text, htext, hpieces, hne⟩

/-- A host whose facts hold texts with line ends, and one that reads as a word. -/
def outlined : Snapshot :=
  { sample with
    system := [
      ("node", .obj [("host name", .str "two words"), ("on", .str "on"), ("", .obj []),
        ("note", .str "a: b\n\x0c")]),
      ("cpu", .arr [.obj [("lines\n", .int 40)], .null])] }

theorem outlined_outline : ¬ Scalar.IsPlainLine "a: b\n\x0c" ∧ Scalar.Stands "a: b\n\x0c" ∧
    ∃ text, (outlined.render .plain).outcome = .ok text ∧
      Text.pieces Text.isLineEnd text.toList = outlined.entries.map Json.Entry.line ++ [[]] := by
  obtain ⟨⟨hstands, -⟩, houtline⟩ := outline_iff "a: b\n\x0c"
  have hline : ¬ Scalar.IsPlainLine "a: b\n\x0c" := by decide
  have hall : ∀ e ∈ Json.memberEntries outlined.system,
      e.key.toList.all (!Text.isLineEnd ·) = true := by decide
  have hkeys : ∀ e ∈ Json.memberEntries outlined.system, ∀ c ∈ e.key.toList,
      Text.isLineEnd c = false := fun e he => Text.forall_of_all (hall e he)
  have hwritable : (Json.obj outlined.mapping).isWritable = true := by decide
  have hplain : ∀ e ∈ outlined.entries, ∀ t ∈ e.value.readText.toOption,
      ¬ Scalar.IsPlainLine t := by decide
  have hleaves : ∀ e ∈ outlined.entries, ∀ t, e.value = .str t → ¬ Scalar.IsPlainLine t := by
    intro e he t ht
    apply hplain e he
    rw [ht]
    rfl
  obtain ⟨text, htext, hpieces, -⟩ := (houtline outlined Text.isLineEnd rfl (fun _ h => h)
    hkeys).mpr ⟨rfl, hwritable, hleaves⟩
  exact ⟨hline, hstands.mpr hline, text, htext, hpieces⟩

def overflowing : Snapshot := { empty with uuid := "node\n" }

theorem overflowing_outline : (Json.str "node\n").scalar = "node\n" ∧ ¬ Scalar.Stands "node\n" ∧
    ∃ text, (overflowing.render .plain).outcome = .ok text ∧
      "uuid: node\n\npersistent:\n".toList <+: text.toList := by
  have hline : Scalar.IsPlainLine "node\n" := by decide
  refine ⟨Scalar.scalar_of_standsBare (by decide), fun h => Scalar.stands_iff.mp h hline, ?_⟩
  have hwritable : overflowing.lines.all TextLine.isWritable = true := by decide
  have hchars : TextLine.chars ⟨0, "uuid", some (.str "node\n")⟩ ++
      TextLine.chars ⟨0, "persistent", none⟩ = "uuid: node\n\npersistent:\n".toList := by decide
  have hstart : "uuid: node\n\npersistent:\n".toList <+:
      overflowing.lines.flatMap TextLine.chars := by
    obtain ⟨rest, hrest⟩ : ∃ rest, overflowing.lines =
        ⟨0, "uuid", some (.str "node\n")⟩ :: ⟨0, "persistent", none⟩ :: rest := ⟨_, rfl⟩
    rw [hrest, List.flatMap_cons, List.flatMap_cons, ← List.append_assoc, hchars]
    exact List.prefix_append _ _
  rw [render_plain rfl, if_pos hwritable]
  exact ⟨_, rfl, by simpa only [String.toList_ofList] using hstart⟩

end Snapshot

end HostSnapshot
