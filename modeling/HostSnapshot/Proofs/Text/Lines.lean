import HostSnapshot.Text.Basic
import Mathlib.Data.List.TakeWhile

namespace HostSnapshot.Text

theorem isLineEnd_of_not_isBlank {c : Char} (h : isBlank c = false) : isLineEnd c = false := by
  simp only [isLineEnd, isBlank, Bool.or_eq_false_iff, Bool.and_eq_false_iff,
    decide_eq_false_iff_not, beq_eq_false_iff_ne] at h ⊢
  omega

theorem lines_cons {c : Char} (hc : isLineEnd c = false) (s : List Char) :
    lines (c :: s) = match lines s with
      | [] => [[c]]
      | l :: ls => (c :: l) :: ls := by
  rw [lines, hc]
  · rfl
  · rintro _ rfl
    cases hc

theorem lines_newline (s : List Char) : lines ('\n' :: s) = [] :: lines s := by
  rw [lines]
  · rfl
  · intro _ h
    cases h

theorem lines_cons_of_isLineEnd {c : Char} (hc : isLineEnd c = true) {s : List Char}
    (hs : s.head? ≠ some '\n') : lines (c :: s) = [] :: lines s := by
  rw [lines, if_pos hc]
  rintro t rfl rfl
  exact hs rfl

theorem lines_append_newline {l : List Char} (hl : ∀ c ∈ l, isLineEnd c = false) (s : List Char) :
    lines (l ++ '\n' :: s) = l :: lines s := by
  induction l with
  | nil => exact lines_newline s
  | cons c l ih =>
    rw [List.forall_mem_cons] at hl
    rw [List.cons_append, lines_cons hl.1, ih hl.2]

theorem lines_append_of_head? {l : List Char} (hne : l ≠ [])
    (hl : ∀ c ∈ l, isLineEnd c = false) {s : List Char} (hs : s = [] ∨ s.head? = some '\n') :
    ∃ later, lines (l ++ s) = l :: later := by
  rcases hs with rfl | hs
  · refine ⟨[], ?_⟩
    rw [List.append_nil]
    induction l with
    | nil => exact absurd rfl hne
    | cons c l ih =>
      rw [List.forall_mem_cons] at hl
      rw [lines_cons hl.1]
      by_cases hnil : l = []
      · rw [hnil, lines_nil]
      · rw [ih hnil hl.2]
  · obtain ⟨s, rfl⟩ := List.head?_eq_some_iff.mp hs
    exact ⟨lines s, lines_append_newline hl s⟩

theorem lines_ne_nil {s : List Char} (h : s ≠ []) : lines s ≠ [] := by
  unfold lines
  split
  · exact absurd rfl h
  · simp
  · split
    · simp
    · split <;> simp

/-- A carriage return that is not the last character does not pair with what is appended. -/
theorem not_paired_append {c : Char} {s t : List Char}
    (hs : ∀ s', c = '\r' → s = '\n' :: s' → False)
    (ht : c = '\r' → s = [] → t.head? ≠ some '\n') :
    ∀ s', c = '\r' → s ++ t = '\n' :: s' → False := by
  intro s' hc hst
  cases s with
  | nil =>
    apply ht hc rfl
    rw [List.nil_append] at hst
    rw [hst, List.head?_cons]
  | cons d s =>
    rw [List.cons_append, List.cons.injEq] at hst
    exact hs s hc (by rw [hst.1])

/-- What follows a line end does not change the lines before it, unless the two make one line end
together. -/
theorem lines_append_of_isLineEnd {s t : List Char}
    (h : ∀ c, s.getLast? = some c → isLineEnd c = true)
    (hpair : s.getLast? = some '\r' → t.head? ≠ some '\n') :
    lines (s ++ t) = lines s ++ lines t := by
  have hlast {c d : Char} {s : List Char} (hs : s.getLast? = some d) :
      (c :: s).getLast? = some d := by
    rw [List.getLast?_cons, hs, Option.getD_some]
  fun_induction lines s with
  | case1 => rfl
  | case2 s ih =>
    rw [List.cons_append, List.cons_append, lines, List.cons_append,
      ih (fun c hc => h c (hlast (hlast hc))) fun hr => hpair (hlast (hlast hr))]
  | case3 c s hc hend ih =>
    rw [List.cons_append, lines, if_pos hend, List.cons_append,
      ih (fun d hd => h d (hlast hd)) fun hr => hpair (hlast hr)]
    apply not_paired_append hc
    rintro rfl rfl
    exact hpair rfl
  | case4 c s hc hend hnil ih =>
    cases s with
    | nil => exact absurd (h c rfl) hend
    | cons d s => exact absurd hnil (lines_ne_nil (List.cons_ne_nil d s))
  | case5 c s hc hend l ls hl ih =>
    rw [List.cons_append, lines_cons (Bool.not_eq_true _ ▸ hend),
      ih (fun d hd => h d (hlast hd)) fun hr => hpair (hlast hr), hl]
    rfl

theorem lines_append {s : List Char} (h : s = [] ∨ s.getLast? = some '\n') (t : List Char) :
    lines (s ++ t) = lines s ++ lines t := by
  apply lines_append_of_isLineEnd
  · intro c hc
    rcases h with rfl | h
    · cases hc
    · rw [h, Option.some.injEq] at hc
      rw [← hc]
      rfl
  · intro hr
    rcases h with rfl | h
    · cases hr
    · rw [h] at hr
      cases hr

/-- A line feed at the end of a text ends its last line, or it makes an empty one. -/
theorem lines_append_singleton (s : List Char) :
    lines (s ++ ['\n']) = lines s ∨ lines (s ++ ['\n']) = lines s ++ [[]] := by
  fun_induction lines s with
  | case1 => exact .inr (lines_newline [])
  | case2 s ih =>
    rw [List.cons_append, List.cons_append, lines, List.cons_append, List.cons.injEq,
      List.cons.injEq]
    exact ih.imp (And.intro rfl) (And.intro rfl)
  | case3 c s hc hend ih =>
    by_cases hpair : c = '\r' ∧ s = []
    · obtain ⟨rfl, rfl⟩ := hpair
      exact .inl (by decide)
    · have hlines : lines (c :: (s ++ ['\n'])) = [] :: lines (s ++ ['\n']) := by
        rw [lines, if_pos hend]
        exact not_paired_append hc fun hr hs => absurd ⟨hr, hs⟩ hpair
      rw [List.cons_append, hlines, List.cons_append, List.cons.injEq, List.cons.injEq]
      exact ih.imp (And.intro rfl) (And.intro rfl)
  | case4 c s hc hend hnil ih =>
    cases s with
    | nil => exact .inl (lines_append_newline (by simpa using hend) [])
    | cons d s => exact absurd hnil (lines_ne_nil (List.cons_ne_nil d s))
  | case5 c s hc hend l ls hl ih =>
    rw [List.cons_append, lines_cons (Bool.not_eq_true _ ▸ hend)]
    rcases ih with ih | ih
    · exact .inl (by rw [ih, hl])
    · exact .inr (by rw [ih, hl]; rfl)

theorem isLineEnd_of_mem_lines {s l : List Char} (h : l ∈ lines s) :
    ∀ c ∈ l, isLineEnd c = false := by
  fun_induction lines s generalizing l with
  | case1 => cases h
  | case2 s ih =>
    rcases List.mem_cons.mp h with rfl | h
    · simp
    · exact ih h
  | case3 c s hc hend ih =>
    rcases List.mem_cons.mp h with rfl | h
    · simp
    · exact ih h
  | case4 c s hc hend hnil ih =>
    rw [List.mem_singleton.mp h, List.forall_mem_singleton]
    exact Bool.not_eq_true _ ▸ hend
  | case5 c s hc hend l' ls hl ih =>
    rw [hl] at ih
    rcases List.mem_cons.mp h with rfl | h
    · rw [List.forall_mem_cons]
      exact ⟨Bool.not_eq_true _ ▸ hend, ih List.mem_cons_self⟩
    · exact ih (List.mem_cons_of_mem _ h)

theorem lines_flatMap {ls : List (List Char)} (h : ∀ l ∈ ls, ∀ c ∈ l, isLineEnd c = false) :
    lines (ls.flatMap (· ++ ['\n'])) = ls := by
  induction ls with
  | nil => exact lines_nil
  | cons l ls ih =>
    rw [List.forall_mem_cons] at h
    rw [List.flatMap_cons, List.append_assoc, List.singleton_append, lines_append_newline h.1,
      ih h.2]

/-- The lines of a text do not depend on how they end. -/
theorem lines_unifyLineEnds (s : List Char) : lines (unifyLineEnds s) = lines s := by
  -- The cases are the two-character end, a lone carriage return, and any other character.
  induction s using unifyLineEnds.induct with
  | case1 => rfl
  | case2 s ih => rw [unifyLineEnds, lines_newline, ih, lines]
  | case3 s hs ih =>
    have hunified : unifyLineEnds ('\r' :: s) = '\n' :: unifyLineEnds s := by
      rw [unifyLineEnds]
      exact hs
    rw [hunified, lines_newline, ih, lines_cons_of_isLineEnd rfl]
    intro hhead
    obtain ⟨s', rfl⟩ := List.head?_eq_some_iff.mp hhead
    exact hs s' rfl
  | case4 c s hpair hc ih =>
    have hunified : unifyLineEnds (c :: s) = c :: unifyLineEnds s := by
      rw [unifyLineEnds]
      · exact hpair
      · exact hc
    rw [hunified]
    by_cases hend : isLineEnd c = true
    · have hlines (s : List Char) : lines (c :: s) = [] :: lines s := by
        rw [lines, if_pos hend]
        exact fun _ hr _ => hc hr
      rw [hlines, hlines, ih]
    · rw [lines_cons (Bool.not_eq_true _ ▸ hend), lines_cons (Bool.not_eq_true _ ▸ hend), ih]

theorem headD_lines (s : List Char) : (lines s).headD [] = s.takeWhile (!isLineEnd ·) := by
  fun_induction lines s with
  | case1 => rfl
  | case2 s ih => rfl
  | case3 c s hc hend ih => simp [hend]
  | case4 c s hc hend hnil ih => simp_all
  | case5 c s hc hend l ls hl ih => simp_all

theorem headD_lines_of_forall {s : List Char} (h : ∀ c ∈ s, isLineEnd c = false) :
    (lines s).headD [] = s := by
  rw [headD_lines, List.takeWhile_eq_self_iff]
  intro c hc
  simp [h c hc]

theorem isLineEnd_of_mem_headD_lines {s : List Char} {c : Char} (h : c ∈ (lines s).headD []) :
    isLineEnd c = false := by
  rw [headD_lines] at h
  simpa using List.mem_takeWhile_imp h

end HostSnapshot.Text
