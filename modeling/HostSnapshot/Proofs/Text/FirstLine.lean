import HostSnapshot.Identity
import HostSnapshot.Proofs.Text.Blank
import HostSnapshot.Proofs.Text.Lines

namespace HostSnapshot.Text

variable {c : Char} {s t : List Char}

/-- A text without blanks around it keeps its first character on its first line. -/
theorem headD_lines_strip_eq_nil_iff : (lines (strip s)).headD [] = [] ↔ strip s = [] := by
  constructor
  · intro h
    rw [headD_lines] at h
    cases hs : strip s with
    | nil => rfl
    | cons c rest =>
      have hblank : isBlank c = false := by
        apply head?_stripEnds (p := isBlank) (s := s)
        rw [← strip, hs, List.head?_cons]
      simp [hs, isLineEnd_of_not_isBlank hblank] at h
  · intro h
    rw [h, lines_nil, List.headD_nil]

theorem head?_headD_lines_strip (h : ((lines (strip s)).headD []).head? = some c) :
    isBlank c = false := by
  rw [headD_lines] at h
  obtain ⟨rest, hrest⟩ := List.takeWhile_prefix (p := (!isLineEnd ·)) (l := strip s)
  apply head?_stripEnds (p := isBlank) (s := s)
  rw [← strip, ← hrest, List.head?_append, h, Option.some_or]

/-- Blanks can only be dropped at the end of a first line, where there are other lines. -/
theorem firstLine_eq_headD_lines_iff : firstLine s = (lines (strip s)).headD [] ↔
    ∀ c, ((lines (strip s)).headD []).getLast? = some c → isBlank c = false := by
  constructor
  · intro h c hc
    rw [← h] at hc
    exact getLast?_stripEnds hc
  · exact stripEnds_of_ends fun c hc => head?_headD_lines_strip hc

theorem firstLine_eq_nil_iff : firstLine s = [] ↔ strip s = [] := by
  rw [← headD_lines_strip_eq_nil_iff]
  constructor
  · intro h
    have hblank := stripEnds_eq_nil_iff.mp h
    cases hs : (lines (strip s)).headD [] with
    | nil => rfl
    | cons c rest =>
      have hc : isBlank c = false := by
        apply head?_headD_lines_strip (s := s)
        rw [hs, List.head?_cons]
      rw [hblank c (hs ▸ List.mem_cons_self)] at hc
      cases hc
  · intro h
    rw [firstLine, h, strip_nil]

/-- A text on one line, without blanks around it. -/
structure IsTidy (s : List Char) : Prop where
  ne_nil : s ≠ []
  line : ∀ c ∈ s, isLineEnd c = false
  head : ∀ c, s.head? = some c → isBlank c = false
  last : ∀ c, s.getLast? = some c → isBlank c = false

theorem isTidy_firstLine (h : firstLine s ≠ []) : IsTidy (firstLine s) where
  ne_nil := h
  line _ hc := isLineEnd_of_mem_headD_lines (mem_of_mem_stripEnds hc)
  head _ hc := head?_stripEnds hc
  last _ hc := getLast?_stripEnds hc

theorem IsTidy.append (hs : IsTidy s) (ht : IsTidy t) {between : List Char}
    (h : ∀ c ∈ between, isLineEnd c = false) : IsTidy (s ++ between ++ t) where
  ne_nil := by simp [hs.ne_nil]
  line c hc := by
    rw [List.mem_append, List.mem_append] at hc
    rcases hc with (hc | hc) | hc
    · exact hs.line c hc
    · exact h c hc
    · exact ht.line c hc
  head c hc := by
    apply hs.head
    rwa [List.append_assoc, List.head?_append_of_ne_nil _ hs.ne_nil] at hc
  last c hc := by
    apply ht.last
    rwa [List.getLast?_append_of_ne_nil _ ht.ne_nil] at hc

end HostSnapshot.Text
