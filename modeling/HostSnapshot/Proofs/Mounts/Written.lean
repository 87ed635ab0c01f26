import HostSnapshot.Proofs.Mounts.Table

namespace HostSnapshot.Mounts

/-- A mount as it is written: with its device, its file system and its options. -/
structure Entry where
  device : String
  point : String
  type : String
  options : List String
deriving DecidableEq, Repr

namespace Entry

def optionsText (e : Entry) : List Char := [','].intercalate (e.options.map String.toList)

def fields (e : Entry) : List (List Char) :=
  [e.device.toList, e.point.toList, e.type.toList, e.optionsText]

/-- What can be written: fields that are not empty and hold no null, and options without commas. -/
structure IsProper (e : Entry) : Prop where
  notEmpty : ∀ field ∈ e.fields, field ≠ []
  noNull : ∀ field ∈ e.fields, '\x00' ∉ field
  noComma : ∀ option ∈ e.options, ',' ∉ option.toList

/-- The line of a mount. Two fields that say nothing come last. -/
def written (e : Entry) : List Char := line (e.fields.map (escape isSpecial) ++ [['0'], ['0']])

def mount (e : Entry) : Mount := ⟨e.point, e.options.contains "ro"⟩

def IsOver (allowed : Char → Prop) (e : Entry) : Prop := ∀ field ∈ e.fields, ∀ c ∈ field, allowed c

end Entry

def table (entries : List Entry) : List Char := entries.flatMap fun e => e.written ++ ['\n']

theorem contains_ro_pieces_optionsText {e : Entry} (h : e.IsProper) :
    (Text.pieces (· == ',') e.optionsText).contains ['r', 'o'] = e.options.contains "ro" := by
  have hne : e.options.map String.toList ≠ [] := by
    intro hnil
    exact h.notEmpty e.optionsText (by simp [Entry.fields]) (by rw [Entry.optionsText, hnil]; rfl)
  have hplain : ∀ w ∈ e.options.map String.toList, ∀ c ∈ w, (c == ',') = false := by
    intro w hw c hc
    obtain ⟨option, hoption, rfl⟩ := List.mem_map.mp hw
    rw [beq_eq_false_iff_ne]
    rintro rfl
    exact h.noComma option hoption hc
  rw [Entry.optionsText, Text.pieces_intercalate rfl hne hplain,
    Bool.eq_iff_iff, List.contains_iff_mem, List.contains_iff_mem, List.mem_map]
  constructor
  · rintro ⟨option, hoption, heq⟩
    have hro : option = "ro" := String.toList_inj.mp heq
    exact hro ▸ hoption
  · exact fun hro => ⟨"ro", hro, rfl⟩

/-- Escaped fields are plain where the kernel escapes all their blanks. -/
theorem plain_fields {e : Entry} (h : e.IsProper) (hover : ∀ field ∈ e.fields, IsWritten field) :
    ∀ field ∈ e.fields.map (escape isSpecial) ++ [['0'], ['0']],
      field ≠ [] ∧ ∀ c ∈ field, Text.isBlank c = false := by
  intro field hfield
  rcases List.mem_append.mp hfield with hfield | hfield
  · obtain ⟨plain, hplain, rfl⟩ := List.mem_map.mp hfield
    exact ⟨escape_ne_nil (h.notEmpty plain hplain),
      fun c hc => isBlank_of_mem_escape (hover plain hplain) hc⟩
  · have hzero : field = ['0'] := by simpa using hfield
    subst hzero
    refine ⟨List.cons_ne_nil _ _, fun c hc => ?_⟩
    rw [List.mem_singleton.mp hc]
    rfl

theorem ofLine?_written {e : Entry} (h : e.IsProper)
    (hover : ∀ field ∈ e.fields, IsWritten field) :
    ofLine? e.written = some (e.device, e.mount) := by
  have hread := ofLine?_line (plain_fields h hover)
  rw [contains_pieces_escape, contains_ro_pieces_optionsText h, unescape_escape, unescape_escape,
    String.ofList_toList, String.ofList_toList] at hread
  exact hread

theorem lookup_map_mount (entries : List Entry) (device : String) :
    (entries.map fun e => (e.device, e.mount)).lookup device =
      (entries.find? (·.device = device)).map Entry.mount := by
  induction entries with
  | nil => rfl
  | cons e entries ih =>
    rw [List.map_cons, List.lookup_cons, List.find?_cons, ih]
    by_cases hd : e.device = device
    · simp [hd]
    · have hd' : (device == e.device) = false := by simpa using Ne.symm hd
      simp [hd, hd']

theorem ofText_table {entries : List Entry}
    (h : ∀ e ∈ entries, e.IsProper ∧ ∀ field ∈ e.fields, IsWritten field) :
    ofText (table entries) = ofEntries (entries.map fun e => (e.device, e.mount)) := by
  rw [ofText]
  congr 1
  induction entries with
  | nil => rfl
  | cons e entries ih =>
    rw [List.forall_mem_cons] at h
    have hline := isLineEnd_of_mem_line fun field hf => (plain_fields h.1.1 h.1.2 field hf).2
    have htable : table (e :: entries) = e.written ++ '\n' :: table entries := by
      simp [table]
    rw [htable, Entry.written, Text.lines_append_newline hline, List.filterMap_cons,
      ← Entry.written, ofLine?_written h.1.1 h.1.2, List.map_cons, ← ih h.2]

theorem lookup_ofText_table {entries : List Entry}
    (h : ∀ e ∈ entries, e.IsProper ∧ ∀ field ∈ e.fields, IsWritten field) (device : String) :
    (ofText (table entries)).lookup device =
      (entries.find? (·.device = device)).map Entry.mount := by
  rw [ofText_table h, lookup_ofEntries, lookup_map_mount]

def Entry.ofChar (c : Char) : Entry :=
  ⟨String.singleton c, String.singleton c, String.singleton c, [String.singleton c]⟩

variable {c : Char}

theorem fields_ofChar : (Entry.ofChar c).fields = [[c], [c], [c], [c]] := by
  simp [Entry.fields, Entry.optionsText, Entry.ofChar, List.intercalate]

theorem isProper_ofChar (h : Text.isBlank c = true) : (Entry.ofChar c).IsProper := by
  refine ⟨?_, ?_, ?_⟩
  · simp [fields_ofChar]
  · simp only [fields_ofChar, List.mem_cons, List.not_mem_nil, or_false, or_self, forall_eq]
    rintro rfl
    cases h
  · simp only [Entry.ofChar, List.mem_singleton, forall_eq, String.toList_singleton]
    rintro rfl
    cases h

theorem written_ofChar (h : isSpecial c = false) : (Entry.ofChar c).written =
    [c, ' ', c, ' ', c, ' ', c, ' ', '0', ' ', '0'] := by
  simp [Entry.written, fields_ofChar, escape, h, line, List.intercalate]

/-- A blank that is not escaped leaves nothing of an entry. -/
theorem ofText_table_ofChar (h : Text.isBlank c = true) (hc : isSpecial c = false) :
    ofText (table [Entry.ofChar c]) = [] := by
  have htable : table [Entry.ofChar c] = (Entry.ofChar c).written ++ ['\n'] := by
    simp [table]
  have hsilent : (Text.lines ((Entry.ofChar c).written ++ ['\n'])).filterMap ofLine? = [] := by
    rw [written_ofChar hc]
    by_cases hend : Text.isLineEnd c = true
    · -- The line is broken at every field.
      have hbroken {s : List Char} : Text.lines (c :: ' ' :: s) = [] :: Text.lines (' ' :: s) :=
        Text.lines_cons_of_isLineEnd hend (by simp)
      have hspace (s : List Char) := Text.lines_cons (c := ' ') rfl s
      simp only [List.cons_append, List.nil_append, hbroken, hspace]
      decide
    · -- The line stays, but all that is left of it are the last two fields.
      have hline : ∀ d ∈ [c, ' ', c, ' ', c, ' ', c, ' ', '0', ' ', '0'],
          Text.isLineEnd d = false := by
        simp [hend]
        decide
      have hwords :
          Text.words [c, ' ', c, ' ', c, ' ', c, ' ', '0', ' ', '0'] = [['0'], ['0']] := by
        have hspace : Text.isBlank ' ' = true := rfl
        have hzero : Text.isBlank '0' = false := rfl
        simp [Text.words, Text.pieces, h, hspace, hzero]
      rw [Text.lines_append_newline hline]
      simp [ofLine?, hwords]
  rw [ofText, htable, hsilent]
  rfl

/-- Over a set of characters every table is read as it was meant, each device with its first mount
and no other device, exactly if the blanks among them are those that the kernel escapes. -/
theorem lookup_table_iff (allowed : Char → Prop) :
    (∀ entries : List Entry, (∀ e ∈ entries, e.IsProper ∧ e.IsOver allowed) → ∀ device,
      (ofText (table entries)).lookup device =
        (entries.find? (·.device = device)).map Entry.mount) ↔
    ∀ c, allowed c → Text.isBlank c = true → c = ' ' ∨ c = '\t' ∨ c = '\n' := by
  constructor
  · intro hread c hallowed hblank
    apply Classical.byContradiction
    intro hplain
    have hc : isSpecial c = false := by
      rw [← Bool.not_eq_true, isSpecial_iff]
      rintro (h | h | h | rfl)
      · exact hplain (.inl h)
      · exact hplain (.inr (.inl h))
      · exact hplain (.inr (.inr h))
      · cases hblank
    have hover : (Entry.ofChar c).IsOver allowed := by
      simp [Entry.IsOver, fields_ofChar, hallowed]
    have hone := hread [Entry.ofChar c] (by simp [isProper_ofChar hblank, hover])
      (Entry.ofChar c).device
    rw [ofText_table_ofChar hblank hc] at hone
    simp at hone
  · intro hblanks entries h
    apply lookup_ofText_table
    intro e he
    refine ⟨(h e he).1, fun field hfield c hc hblank => ?_⟩
    rcases hblanks c ((h e he).2 field hfield c hc) hblank with rfl | rfl | rfl <;> rfl

def unescapedEntry : Entry := ⟨"/dev/sda1", "/mnt/a\u3000b", "ext4", ["ro"]⟩

theorem ofText_unescapedEntry : unescapedEntry.IsProper ∧
    unescapedEntry.mount = ⟨"/mnt/a\u3000b", true⟩ ∧
    ofText (table [unescapedEntry]) = [("/dev/sda1", ⟨"/mnt/a", false⟩)] := by
  refine ⟨⟨by decide, by decide, by decide⟩, by decide, ?_⟩
  decide

end HostSnapshot.Mounts
