import HostSnapshot.Text.Basic

namespace HostSnapshot.Text

/-- A text is told from what follows it by a character that does not occur in it. -/
theorem append_cons_inj {c : Char} {w w' r r' : List Char} (hw : c ∉ w) (hw' : c ∉ w')
    (h : w ++ c :: r = w' ++ c :: r') : w = w' ∧ r = r' := by
  induction w generalizing w' with
  | nil =>
    cases w' with
    | nil => exact ⟨rfl, (List.cons.inj h).2⟩
    | cons d' w' => exact absurd ((List.cons.inj h).1 ▸ List.mem_cons_self) hw'
  | cons d w ih =>
    cases w' with
    | nil => exact absurd ((List.cons.inj h).1 ▸ List.mem_cons_self) hw
    | cons d' w' =>
      simp only [List.mem_cons, not_or] at hw hw'
      simp only [List.cons_append, List.cons.injEq] at h
      have htail := ih hw.2 hw'.2 h.2
      exact ⟨by rw [h.1, htail.1], htail.2⟩

theorem mem_pieces {p : Char → Bool} {s : List Char} {c : Char} (h : c ∈ s) :
    p c = true ∨ ∃ w ∈ pieces p s, c ∈ w := by
  induction s with
  | nil => simp at h
  | cons d s ih =>
    rw [pieces]
    rcases List.mem_cons.mp h with rfl | hs
    · by_cases hp : p c = true
      · exact .inl hp
      · rw [if_neg hp]
        refine .inr ?_
        split <;> simp
    · rcases ih hs with hp | ⟨w, hw, hc⟩
      · exact .inl hp
      · refine .inr ?_
        split
        · exact ⟨w, List.mem_cons_of_mem _ hw, hc⟩
        · split
          · simp_all
          · next w' ws heq =>
            rw [heq] at hw
            rcases List.mem_cons.mp hw with rfl | hws
            · exact ⟨d :: w, List.mem_cons_self, List.mem_cons_of_mem _ hc⟩
            · exact ⟨w, List.mem_cons_of_mem _ hws, hc⟩

theorem head_of_pieces {p : Char → Bool} {s : List Char} {c : Char} {w : List Char}
    {ws : List (List Char)} (h : pieces p s = (c :: w) :: ws) : s.head? = some c := by
  cases s with
  | nil => simp [pieces] at h
  | cons d s =>
    rw [pieces] at h
    split at h
    · simp at h
    · split at h <;> simp_all

theorem replicate_append_inj {c : Char} {m n : Nat} {s t : List Char} (hs : s.head? ≠ some c)
    (ht : t.head? ≠ some c) (h : List.replicate m c ++ s = List.replicate n c ++ t) :
    m = n ∧ s = t := by
  induction m generalizing n with
  | zero =>
    cases n with
    | zero => exact ⟨rfl, h⟩
    | succ n =>
      rw [List.replicate_zero, List.nil_append] at h
      simp [h, List.replicate_succ] at hs
  | succ m ih =>
    cases n with
    | zero =>
      rw [List.replicate_zero, List.nil_append] at h
      simp [← h, List.replicate_succ] at ht
    | succ n =>
      simp only [List.replicate_succ, List.cons_append, List.cons.injEq, true_and] at h
      have htail := ih h
      exact ⟨congrArg (· + 1) htail.1, htail.2⟩

variable {p : Char → Bool}

/-- Whether a text is free of a class of characters can be computed. -/
theorem forall_of_all {s : List Char} (h : s.all (!p ·) = true) : ∀ c ∈ s, p c = false := by
  simpa using h

theorem pieces_of_forall {w : List Char} (hw : ∀ c ∈ w, p c = false) : pieces p w = [w] := by
  induction w with
  | nil => rfl
  | cons c w ih =>
    rw [List.forall_mem_cons] at hw
    rw [pieces, hw.1, ih hw.2]
    rfl

theorem pieces_append_cons {w : List Char} (hw : ∀ c ∈ w, p c = false) {c : Char}
    (hc : p c = true) (s : List Char) : pieces p (w ++ c :: s) = w :: pieces p s := by
  induction w with
  | nil => rw [List.nil_append, pieces, if_pos hc]
  | cons d w ih =>
    rw [List.forall_mem_cons] at hw
    rw [List.cons_append, pieces, hw.1, ih hw.2]
    rfl

theorem pieces_intercalate {c : Char} (hc : p c = true) {ws : List (List Char)} (hne : ws ≠ [])
    (hws : ∀ w ∈ ws, ∀ d ∈ w, p d = false) : pieces p ([c].intercalate ws) = ws := by
  induction ws with
  | nil => exact absurd rfl hne
  | cons w ws ih =>
    rw [List.forall_mem_cons] at hws
    cases ws with
    | nil =>
      rw [List.intercalate_singleton]
      exact pieces_of_forall hws.1
    | cons v ws =>
      rw [List.intercalate_cons_cons, List.append_assoc, List.singleton_append,
        pieces_append_cons hws.1 hc, ih (List.cons_ne_nil v ws) hws.2]

/-- A text that ends with a separator has an empty piece at its end, and another one before it. -/
theorem pieces_append_singleton {c : Char} (hc : p c = true) (s : List Char) :
    ∃ w ws, pieces p (s ++ [c]) = w :: ws ++ [[]] := by
  induction s with
  | nil => exact ⟨[], [], by simp [pieces, hc]⟩
  | cons d s ih =>
    obtain ⟨w, ws, hws⟩ := ih
    rw [List.cons_append, pieces, hws]
    by_cases hd : p d = true
    · exact ⟨[], w :: ws, by simp [hd]⟩
    · exact ⟨d :: w, ws, by simp [hd]⟩

theorem isFree_of_mem_pieces {s w : List Char} (h : w ∈ pieces p s) : ∀ c ∈ w, p c = false := by
  induction s generalizing w with
  | nil => simp_all [pieces]
  | cons d s ih =>
    rw [pieces] at h
    by_cases hd : p d = true
    · rw [if_pos hd, List.mem_cons] at h
      rcases h with rfl | h
      · simp
      · exact ih h
    · rw [if_neg hd] at h
      cases hs : pieces p s with
      | nil => exact absurd hs (pieces_ne_nil p s)
      | cons v vs =>
        rw [hs] at h ih
        rcases List.mem_cons.mp h with rfl | h
        · rw [List.forall_mem_cons]
          exact ⟨Bool.not_eq_true _ ▸ hd, ih List.mem_cons_self⟩
        · exact ih (List.mem_cons_of_mem _ h)

theorem pieces_flatMap {c : Char} (hc : p c = true) {ws : List (List Char)}
    (hws : ∀ w ∈ ws, ∀ d ∈ w, p d = false) : pieces p (ws.flatMap (· ++ [c])) = ws ++ [[]] := by
  induction ws with
  | nil => rfl
  | cons w ws ih =>
    rw [List.forall_mem_cons] at hws
    rw [List.flatMap_cons, List.append_assoc, List.singleton_append,
      pieces_append_cons hws.1 hc, ih hws.2, List.cons_append]

theorem pieces_append {w : List Char} (hw : ∀ c ∈ w, p c = false) {s v : List Char}
    {vs : List (List Char)} (hs : pieces p s = v :: vs) : pieces p (w ++ s) = (w ++ v) :: vs := by
  induction w with
  | nil => exact hs
  | cons c w ih =>
    rw [List.forall_mem_cons] at hw
    rw [List.cons_append, pieces, hw.1, ih hw.2]
    rfl

theorem not_isBlank_of_mem_words {s w : List Char} (h : w ∈ words s) :
    ∀ c ∈ w, isBlank c = false :=
  isFree_of_mem_pieces (List.mem_filter.mp h).1

/-- Fields with single spaces between them come apart again, but for the empty ones. -/
theorem words_intercalate_eq_filter {ws : List (List Char)} (hne : ws ≠ [])
    (hws : ∀ w ∈ ws, ∀ c ∈ w, isBlank c = false) :
    words ([' '].intercalate ws) = ws.filter fun w => !w.isEmpty := by
  rw [words, pieces_intercalate rfl hne hws]

theorem words_intercalate {ws : List (List Char)}
    (hws : ∀ w ∈ ws, w ≠ [] ∧ ∀ c ∈ w, isBlank c = false) : words ([' '].intercalate ws) = ws := by
  cases ws with
  | nil => rfl
  | cons w ws =>
    rw [words_intercalate_eq_filter (List.cons_ne_nil w ws) fun v hv => (hws v hv).2]
    apply List.filter_eq_self.mpr
    intro v hv
    simp [(hws v hv).1]

theorem head?_pieces (s : List Char) : (pieces p s).head? = some (s.takeWhile (!p ·)) := by
  induction s with
  | nil => rfl
  | cons c s ih =>
    rw [pieces]
    by_cases hc : p c = true
    · simp [hc]
    · cases h : pieces p s with
      | nil => exact absurd h (pieces_ne_nil p s)
      | cons w ws =>
        rw [h, List.head?_cons, Option.some.injEq] at ih
        simp [hc, ih]

theorem tail_pieces_cons (c : Char) (s : List Char) :
    (pieces p (c :: s)).tail = if p c then pieces p s else (pieces p s).tail := by
  rw [pieces]
  split
  · rfl
  · cases h : pieces p s with
    | nil => exact absurd h (pieces_ne_nil p s)
    | cons w ws => rfl

theorem mem_pieces_iff {s w : List Char} :
    w ∈ pieces p s ↔ s.takeWhile (!p ·) = w ∨ w ∈ (pieces p s).tail := by
  have hhead := head?_pieces (p := p) s
  cases h : pieces p s with
  | nil => exact absurd h (pieces_ne_nil p s)
  | cons v vs =>
    rw [h, List.head?_cons, Option.some.injEq] at hhead
    rw [← hhead, List.mem_cons, List.tail_cons, eq_comm]

end HostSnapshot.Text
