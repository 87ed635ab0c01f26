import HostSnapshot.Proofs.Mounts.First
import HostSnapshot.Proofs.Mounts.Options

namespace HostSnapshot

namespace Mounts

/-- A line about a device with its options. Where it has none, its type is followed by the two
numbers at its end. -/
inductive HasOptions (device : String) : List Char → List Char → Prop
  | some {line written point type options : List Char} {rest : List (List Char)}
      (hwords : Text.words line = written :: point :: type :: options :: rest)
      (hdevice : String.ofList (unescape written) = device) : HasOptions device options line
  | none {line written point type : List Char}
      (hwords : Text.words line = [written, point, type, ['0'], ['0']])
      (hdevice : String.ofList (unescape written) = device) : HasOptions device [] line

/-- A table whose first line about a device has some options. -/
def FirstHasOptions (device : String) (options table : List Char) : Prop :=
  ∃ above line below, Text.lines table = above ++ line :: below ∧
    (∀ l ∈ above, ∀ m, ¬ Tells device m l) ∧ HasOptions device options line

variable {device : String} {options line : List Char}

theorem HasOptions.not_isBlank (h : HasOptions device options line) :
    ∀ c ∈ options, Text.isBlank c = false := by
  cases h with
  | some hwords _ =>
    apply Text.not_isBlank_of_mem_words (s := line)
    simp [hwords]
  | none => simp

theorem HasOptions.tells (h : HasOptions device options line) :
    ∃ mount, Tells device mount line ∧
      mount.readOnly = (Text.pieces (· == ',') options).contains ['r', 'o'] := by
  cases h with
  | some hwords hdevice => exact ⟨_, .fields hwords hdevice, rfl⟩
  | none hwords hdevice => exact ⟨_, .fields hwords hdevice, rfl⟩

theorem FirstHasOptions.lookup_ofText {table : List Char}
    (h : FirstHasOptions device options table) :
    ∃ mount, (ofText table).lookup device = some mount ∧
      mount.readOnly = MountOptions.decide options false := by
  obtain ⟨above, line, below, hlines, habove, hline⟩ := h
  obtain ⟨mount, htells, hflag⟩ := hline.tells
  have hfeed : '\n' ∉ options := fun hmem => absurd (hline.not_isBlank _ hmem) (by decide)
  refine ⟨mount, lookup_ofText_of_tells hlines habove htells, ?_⟩
  rw [hflag, MountOptions.decide_false hfeed]

theorem exists_firstHasOptions_iff : (∃ device table, FirstHasOptions device options table) ↔
    ∀ c ∈ options, Text.isBlank c = false := by
  constructor
  · rintro ⟨device, table, above, line, below, -, -, hline⟩
    exact hline.not_isBlank
  · intro h
    have hplain : ∀ field ∈ [['d'], ['p'], ['t'], options, ['0'], ['0']],
        ∀ c ∈ field, Text.isBlank c = false := by
      simpa [Text.isBlank] using h
    have hwords : Text.words (Mounts.line [['d'], ['p'], ['t'], options, ['0'], ['0']]) = _ :=
      Text.words_intercalate_eq_filter (List.cons_ne_nil _ _) hplain
    refine ⟨"d", Mounts.line [['d'], ['p'], ['t'], options, ['0'], ['0']] ++ ['\n'], [], _, [],
      Text.lines_append_newline (isLineEnd_of_mem_line hplain) [], by simp, ?_⟩
    by_cases hnone : options = []
    · subst hnone
      exact .none hwords rfl
    · rw [List.filter_eq_self.mpr (by simp [hnone])] at hwords
      exact .some hwords rfl

end Mounts

namespace MountOptions

theorem decide_eq (s : List Char) (default : Bool) : decide s default =
    if ['r', 'o'] ∈ elements s then true
    else if ['r', 'w'] ∈ elements s then false else default := by
  simp only [decide, has_ro_iff, has_rw_iff]

def contradiction (options : String) : Event :=
  .logged .warning "partitions"
    ("mount options " ++ quoted options ++ " carry both rw and ro, ro wins")

theorem events_readOnly (options : String) (default : Bool) :
    (readOnly options default).events =
      if ['r', 'o'] ∈ elements options.toList ∧ ['r', 'w'] ∈ elements options.toList then
        [contradiction options]
      else [] := by
  unfold readOnly
  simp only [Bool.and_eq_true, has_ro_iff, has_rw_iff, and_comm]
  split <;> rfl

/-- A mount is read-only if `ro` is one of its options, and not if only `rw` is; without either the
default stands. A warning is given if both are there. The mount table is read by the same rule, with
false for the default. -/
theorem readOnly_elements (options : String) (default : Bool) :
    (readOnly options default).outcome = .ok
      (if ['r', 'o'] ∈ elements options.toList then true
        else if ['r', 'w'] ∈ elements options.toList then false else default) ∧
    (readOnly options default).events =
      (if ['r', 'o'] ∈ elements options.toList ∧ ['r', 'w'] ∈ elements options.toList then
        [contradiction options] else []) ∧
    (∀ device table, Mounts.FirstHasOptions device options.toList table →
      ∃ mount, (Mounts.ofText table).lookup device = some mount ∧
        (readOnly options false).outcome = .ok mount.readOnly) ∧
    ((∃ device table, Mounts.FirstHasOptions device options.toList table) ↔
      ∀ c ∈ options.toList, Text.isBlank c = false) := by
  refine ⟨?_, events_readOnly options default, ?_, Mounts.exists_firstHasOptions_iff⟩
  · rw [outcome_readOnly, decide_eq]
  · intro device table h
    obtain ⟨mount, hmount, hflag⟩ := h.lookup_ofText
    refine ⟨mount, hmount, ?_⟩
    rw [outcome_readOnly, hflag]

def mixedTable : List Char :=
  "/dev/sdb1 /srv xfs rw 0 0\n/dev/sda1 /boot vfat rw,,errors=remount-ro,ro 0 0\n".toList

theorem readOnly_elements_mixed :
    Mounts.FirstHasOptions "/dev/sda1" "rw,,errors=remount-ro,ro".toList mixedTable ∧
    (readOnly "rw,,errors=remount-ro,ro" false).outcome = .ok true ∧
    (readOnly "rw,,errors=remount-ro,ro" false).events =
      [contradiction "rw,,errors=remount-ro,ro"] ∧
    ∃ mount, (Mounts.ofText mixedTable).lookup "/dev/sda1" = some mount ∧
      (readOnly "rw,,errors=remount-ro,ro" false).outcome = .ok mount.readOnly := by
  have hother : Mounts.ofLine? "/dev/sdb1 /srv xfs rw 0 0".toList =
      some ("/dev/sdb1", ⟨"/srv", false⟩) := by decide
  have hwords : Text.words "/dev/sda1 /boot vfat rw,,errors=remount-ro,ro 0 0".toList =
      ["/dev/sda1".toList, "/boot".toList, "vfat".toList, "rw,,errors=remount-ro,ro".toList,
        ['0'], ['0']] := by decide
  have hfirst : Mounts.FirstHasOptions "/dev/sda1" "rw,,errors=remount-ro,ro".toList
      mixedTable := by
    refine ⟨["/dev/sdb1 /srv xfs rw 0 0".toList], _, [], by decide, ?_, .some hwords (by decide)⟩
    intro l hl m hm
    rw [List.mem_singleton.mp hl, ← Mounts.ofLine?_eq_some_iff, hother, Option.some.injEq,
      Prod.mk.injEq] at hm
    exact absurd hm.1 (by decide)
  obtain ⟨houtcome, hevents, htable, -⟩ := readOnly_elements "rw,,errors=remount-ro,ro" false
  exact ⟨hfirst, houtcome.trans (congrArg _ (by decide)), hevents.trans (by decide),
    htable _ _ hfirst⟩

end MountOptions

end HostSnapshot
