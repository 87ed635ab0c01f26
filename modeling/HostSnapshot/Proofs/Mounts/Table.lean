import HostSnapshot.Proofs.Mounts.Escapes
import HostSnapshot.Proofs.Text.Lines
import HostSnapshot.Proofs.Text.Pieces

namespace HostSnapshot.Mounts

theorem escape_injective : Function.Injective (escape isSpecial) := by
  intro s t h
  rw [← unescape_escape s, h, unescape_escape]

theorem octalDigit_bounds (n : Nat) : '0' ≤ octalDigit n ∧ octalDigit n ≤ '7' := by
  have h : ∀ m < 8, '0' ≤ Char.ofNat (0x30 + m) ∧ Char.ofNat (0x30 + m) ≤ '7' := by decide
  exact h _ (Nat.mod_lt n (by decide))

theorem mem_escape {c : Char} {s : List Char} (h : c ∈ escape isSpecial s) :
    c ∈ s ∧ isSpecial c = false ∨ c = '\\' ∨ '0' ≤ c ∧ c ≤ '7' := by
  obtain ⟨d, hd, hc⟩ := List.mem_flatMap.mp h
  by_cases hs : isSpecial d = true
  · rw [if_pos hs] at hc
    simp only [List.mem_cons, List.not_mem_nil, or_false] at hc
    rcases hc with rfl | rfl | rfl | rfl
    · exact .inr (.inl rfl)
    all_goals exact .inr (.inr (octalDigit_bounds _))
  · rw [if_neg hs, List.mem_singleton] at hc
    subst hc
    exact .inl ⟨hd, Bool.not_eq_true _ ▸ hs⟩

/-- A text whose only blanks are those that the kernel escapes. -/
def IsWritten (s : List Char) : Prop := ∀ c ∈ s, Text.isBlank c = true → isSpecial c = true

theorem isBlank_of_octal {c : Char} (h : '0' ≤ c ∧ c ≤ '7') : Text.isBlank c = false := by
  simp only [Char.le_def, UInt32.le_iff_toNat_le] at h
  have hlow : 0x30 ≤ c.toNat := h.1
  have hhigh : c.toNat ≤ 0x37 := h.2
  simp only [Text.isBlank, Bool.or_eq_false_iff, Bool.and_eq_false_iff, decide_eq_false_iff_not,
    beq_eq_false_iff_ne]
  omega

theorem isBlank_of_mem_escape {s : List Char} (hs : IsWritten s) {c : Char}
    (h : c ∈ escape isSpecial s) : Text.isBlank c = false := by
  rcases mem_escape h with ⟨hc, hspecial⟩ | rfl | hoctal
  · by_cases hb : Text.isBlank c = true
    · rw [hs c hc hb] at hspecial
      cases hspecial
    · exact Bool.not_eq_true _ ▸ hb
  · rfl
  · exact isBlank_of_octal hoctal

theorem escape_ne_nil {s : List Char} (h : s ≠ []) : escape isSpecial s ≠ [] := by
  rw [← unescape_escape s] at h
  rintro heq
  rw [heq] at h
  exact h rfl

/-- Options are told apart as well when they are escaped. -/
theorem pieces_escape (s : List Char) :
    Text.pieces (· == ',') (escape isSpecial s) =
      (Text.pieces (· == ',') s).map (escape isSpecial) := by
  induction s with
  | nil => rfl
  | cons c s ih =>
    rw [escape_cons]
    -- A comma is not escaped, and no escape brings one in.
    by_cases hc : c = ','
    · subst hc
      rw [escape_of_not_special rfl, List.singleton_append, Text.pieces,
        if_pos (beq_self_eq_true _), ih, Text.pieces, if_pos (beq_self_eq_true _)]
      rfl
    · have hplain : ∀ d ∈ escape isSpecial [c], (d == ',') = false := by
        intro d hd
        rcases mem_escape hd with ⟨hd, -⟩ | rfl | hoctal
        · simpa [List.mem_singleton.mp hd] using hc
        · rfl
        · rw [beq_eq_false_iff_ne]
          rintro rfl
          exact absurd hoctal (by decide)
      obtain ⟨w, ws, hs⟩ := List.exists_cons_of_ne_nil (Text.pieces_ne_nil (· == ',') s)
      rw [hs, List.map_cons] at ih
      rw [Text.pieces_append hplain ih, Text.pieces, if_neg (by simpa using hc), hs]
      dsimp only
      rw [List.map_cons, escape_cons _ c w]

theorem contains_pieces_escape (s : List Char) :
    (Text.pieces (· == ',') (escape isSpecial s)).contains ['r', 'o'] =
      (Text.pieces (· == ',') s).contains ['r', 'o'] := by
  have hro : escape isSpecial ['r', 'o'] = ['r', 'o'] := rfl
  rw [pieces_escape, Bool.eq_iff_iff, List.contains_iff_mem, List.contains_iff_mem, List.mem_map]
  constructor
  · rintro ⟨w, hw, heq⟩
    rw [← hro] at heq
    exact escape_injective heq ▸ hw
  · intro h
    exact ⟨_, h, hro⟩

def line (fields : List (List Char)) : List Char := [' '].intercalate fields

theorem line_cons_cons (field next : List Char) (rest : List (List Char)) :
    line (field :: next :: rest) = field ++ ' ' :: line (next :: rest) := by
  rw [line, List.intercalate_cons_cons, List.append_assoc]
  rfl

theorem line_ne_nil {field : List Char} (h : field ≠ []) (rest : List (List Char)) :
    line (field :: rest) ≠ [] := by
  cases rest with
  | nil => simpa [line] using h
  | cons next rest => simp [line_cons_cons]

theorem ofLine?_line {device point type options : List Char} {rest : List (List Char)}
    (h : ∀ field ∈ device :: point :: type :: options :: rest,
      field ≠ [] ∧ ∀ c ∈ field, Text.isBlank c = false) :
    ofLine? (line (device :: point :: type :: options :: rest)) =
      some (String.ofList (unescape device), ⟨String.ofList (unescape point),
        (Text.pieces (· == ',') options).contains ['r', 'o']⟩) := by
  rw [ofLine?, line, Text.words_intercalate h]

theorem isLineEnd_of_mem_line {fields : List (List Char)}
    (h : ∀ field ∈ fields, ∀ c ∈ field, Text.isBlank c = false) :
    ∀ c ∈ line fields, Text.isLineEnd c = false := by
  induction fields with
  | nil => simp [line]
  | cons field fields ih =>
    rw [List.forall_mem_cons] at h
    cases fields with
    | nil =>
      rw [line, List.intercalate_singleton]
      exact fun c hc => Text.isLineEnd_of_not_isBlank (h.1 c hc)
    | cons next rest =>
      intro c hc
      rw [line_cons_cons, List.mem_append, List.mem_cons] at hc
      rcases hc with hc | rfl | hc
      · exact Text.isLineEnd_of_not_isBlank (h.1 c hc)
      · rfl
      · exact ih h.2 c hc

theorem lookup_add (mounts : Mounts) (entry : String × Mount) (key : String) :
    (add mounts entry).lookup key = (mounts.lookup key).or ([entry].lookup key) := by
  unfold add
  split
  · next hsome =>
    -- Only the device of the entry is affected, and it has a mount already.
    by_cases hkey : key = entry.1
    · subst hkey
      rw [Option.or_of_isSome hsome]
    · have hnone : [entry].lookup key = none := by simp [hkey]
      rw [hnone, Option.or_none]
  · exact List.lookup_append

theorem lookup_ofEntries (entries : List (String × Mount)) (key : String) :
    (ofEntries entries).lookup key = entries.lookup key := by
  have step (mounts : Mounts) :
      (entries.foldl add mounts).lookup key = (mounts.lookup key).or (entries.lookup key) := by
    induction entries generalizing mounts with
    | nil => simp
    | cons entry entries ih =>
      rw [List.foldl_cons, ih, lookup_add, Option.or_assoc, ← List.lookup_append]
      rfl
  exact step []

def IsSilent (device : String) (table : List Char) : Prop :=
  ∀ l ∈ Text.lines table, (ofLine? l).map Prod.fst ≠ some device

/-- A table whose first line for a device gives a mount point with some options. The options are
written as they are, or escaped like the other fields. -/
inductive Gives (device point options : String) : List Char → Prop
  | line (above type written below : List Char) (rest : List (List Char))
      (habove : above = [] ∨ above.getLast? = some '\n') (hfirst : IsSilent device above)
      (hrest : ∀ field ∈ type :: rest, field ≠ [] ∧ ∀ c ∈ field, Text.isBlank c = false)
      (hwritten : written = options.toList ∨ written = escape isSpecial options.toList)
      (hbelow : below = [] ∨ below.head? = some '\n') :
      Gives device point options
        (above ++ (Mounts.line (escape isSpecial device.toList :: escape isSpecial point.toList ::
          type :: written :: rest) ++ below))

theorem lookup_filterMap_eq_none {device : String} {ls : List (List Char)}
    (h : ∀ l ∈ ls, (ofLine? l).map Prod.fst ≠ some device) :
    (ls.filterMap ofLine?).lookup device = none := by
  rw [List.lookup_eq_none_iff]
  intro entry hentry
  obtain ⟨l, hl, heq⟩ := List.mem_filterMap.mp hentry
  rw [bne_iff_ne]
  rintro rfl
  exact h l hl (by rw [heq]; rfl)

theorem lookup_of_isSilent {device : String} {table : List Char} (h : IsSilent device table) :
    (ofText table).lookup device = none := by
  rw [ofText, lookup_ofEntries, lookup_filterMap_eq_none h]

/-- The first line for a device is read as it was meant. -/
theorem lookup_of_gives {device point options : String} {table : List Char}
    (h : Gives device point options table) (hdevice : device ≠ "" ∧ IsWritten device.toList)
    (hpoint : point ≠ "" ∧ IsWritten point.toList)
    (hoptions : options ≠ "" ∧ ∀ c ∈ options.toList, Text.isBlank c = false) :
    (ofText table).lookup device =
      some ⟨point, (Text.pieces (· == ',') options.toList).contains ['r', 'o']⟩ := by
  obtain ⟨above, type, written, below, rest, habove, hfirst, hrest, hwritten, hbelow⟩ := h
  have hescaped {s : String} (hs : s ≠ "" ∧ IsWritten s.toList) :
      escape isSpecial s.toList ≠ [] ∧ ∀ c ∈ escape isSpecial s.toList, Text.isBlank c = false :=
    ⟨escape_ne_nil (by simpa using hs.1), fun c hc => isBlank_of_mem_escape hs.2 hc⟩
  have hplain : written ≠ [] ∧ ∀ c ∈ written, Text.isBlank c = false := by
    rcases hwritten with rfl | rfl
    · exact ⟨by simpa using hoptions.1, hoptions.2⟩
    · refine hescaped ⟨hoptions.1, fun c hc hb => ?_⟩
      rw [hoptions.2 c hc] at hb
      cases hb
  have hro : (Text.pieces (· == ',') written).contains ['r', 'o'] =
      (Text.pieces (· == ',') options.toList).contains ['r', 'o'] := by
    rcases hwritten with rfl | rfl
    · rfl
    · exact contains_pieces_escape _
  have hfields : ∀ field ∈ escape isSpecial device.toList :: escape isSpecial point.toList ::
      type :: written :: rest, field ≠ [] ∧ ∀ c ∈ field, Text.isBlank c = false := by
    rw [List.forall_mem_cons] at hrest
    simp only [List.forall_mem_cons]
    exact ⟨hescaped hdevice, hescaped hpoint, hrest.1, hplain, hrest.2⟩
  -- The line is one piece of the table, whatever stands above and below it.
  obtain ⟨later, hlines⟩ : ∃ later, Text.lines (Mounts.line (escape isSpecial device.toList ::
      escape isSpecial point.toList :: type :: written :: rest) ++ below) =
        Mounts.line (escape isSpecial device.toList :: escape isSpecial point.toList ::
          type :: written :: rest) :: later :=
    Text.lines_append_of_head? (line_ne_nil (hescaped hdevice).1 _)
      (isLineEnd_of_mem_line fun field hf => (hfields field hf).2) hbelow
  rw [ofText, Text.lines_append habove, hlines, List.filterMap_append, lookup_ofEntries,
    List.lookup_append, lookup_filterMap_eq_none hfirst, Option.none_or, List.filterMap_cons,
    ofLine?_line hfields, unescape_escape, unescape_escape, String.ofList_toList,
    String.ofList_toList, hro]
  exact List.lookup_cons_self

end HostSnapshot.Mounts
