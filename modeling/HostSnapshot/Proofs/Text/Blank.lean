import HostSnapshot.Text.Basic
import Mathlib.Data.List.DropRight

namespace HostSnapshot.Text

def blankPoints : List Nat := [
  0x9, 0xa, 0xb, 0xc, 0xd, 0x1c, 0x1d, 0x1e, 0x1f, 0x20, 0x85, 0xa0, 0x1680, 0x2000, 0x2001, 0x2002,
  0x2003, 0x2004, 0x2005, 0x2006, 0x2007, 0x2008, 0x2009, 0x200a, 0x2028, 0x2029, 0x202f, 0x205f,
  0x3000]

variable {p : Char → Bool} {c : Char} {s : List Char}

theorem mem_blankPoints (h : isBlank c = true) : c.toNat ∈ blankPoints := by
  simp only [isBlank, Bool.or_eq_true, Bool.and_eq_true, decide_eq_true_eq, beq_iff_eq] at h
  simp only [blankPoints, List.mem_cons, List.not_mem_nil, or_false]
  omega

/-- A class of characters has no blanks if none of their code points is in it. -/
theorem not_isBlank_of_class (hp : ∀ n ∈ blankPoints, p (Char.ofNat n) = false)
    (h : p c = true) : isBlank c = false := by
  rw [← Bool.not_eq_true]
  intro hblank
  have hc := hp c.toNat (mem_blankPoints hblank)
  rw [Char.ofNat_toNat, h] at hc
  cases hc

theorem stripEnds_isPrefix_dropWhile : stripEnds p s <+: s.dropWhile p :=
  List.rdropWhile_prefix p _

theorem mem_of_mem_stripEnds (h : c ∈ stripEnds p s) : c ∈ s :=
  (List.dropWhile_sublist p).mem (stripEnds_isPrefix_dropWhile.mem h)

theorem head?_stripEnds (h : (stripEnds p s).head? = some c) : p c = false := by
  obtain ⟨rest, hrest⟩ := stripEnds_isPrefix_dropWhile (p := p) (s := s)
  have hhead : (s.dropWhile p).head? = some c := by
    rw [← hrest, List.head?_append, h]
    rfl
  have hnot := List.head?_dropWhile_not p s
  rw [hhead] at hnot
  exact hnot

theorem getLast?_stripEnds (h : (stripEnds p s).getLast? = some c) : p c = false := by
  obtain ⟨hne, rfl⟩ := List.mem_getLast?_eq_getLast h
  have hlast := List.rdropWhile_last_not p (s.dropWhile p) hne
  rwa [Bool.not_eq_true] at hlast

theorem stripEnds_eq_nil_iff : stripEnds p s = [] ↔ ∀ c ∈ s, p c = true := by
  change (s.dropWhile p).rdropWhile p = [] ↔ _
  rw [List.rdropWhile_eq_nil_iff, ← List.dropWhile_eq_nil_iff (l := s.dropWhile p),
    List.dropWhile_idempotent, List.dropWhile_eq_nil_iff]

theorem stripEnds_of_ends (hhead : ∀ c, s.head? = some c → p c = false)
    (hlast : ∀ c, s.getLast? = some c → p c = false) : stripEnds p s = s := by
  have hdrop : s.dropWhile p = s := by
    apply List.dropWhile_eq_self_iff.mpr
    intro hpos
    simp [hhead s[0] (List.head?_eq_getElem? ▸ List.getElem?_eq_getElem hpos)]
  have hkeep : s.rdropWhile p = s := by
    apply List.rdropWhile_eq_self_iff.mpr
    intro hne
    simp [hlast _ (List.getLast?_eq_some_getLast hne)]
  change (s.dropWhile p).rdropWhile p = s
  rw [hdrop, hkeep]

theorem stripEnds_of_forall (h : ∀ c ∈ s, p c = false) : stripEnds p s = s :=
  stripEnds_of_ends (fun c hc => h c (List.mem_of_head? hc)) fun c hc =>
    h c (List.mem_of_getLast? hc)

theorem stripEnds_append {before after : List Char} (hbefore : ∀ c ∈ before, p c = true)
    (hafter : ∀ c ∈ after, p c = true) (s : List Char) :
    stripEnds p (before ++ s ++ after) = stripEnds p s := by
  rw [stripEnds, stripEnds, List.append_assoc, List.dropWhile_append_of_pos hbefore,
    List.dropWhile_append]
  split
  · next hnil =>
    rw [List.isEmpty_iff.mp hnil, List.dropWhile_eq_nil_iff.mpr hafter]
  · rw [List.reverse_append,
      List.dropWhile_append_of_pos fun c hc => hafter c (List.mem_reverse.mp hc)]

theorem stripEnds_enclosed {a b : Char} (ha : p a = true) (hb : p b = true) (s : List Char) :
    stripEnds p (a :: s ++ [b]) = stripEnds p s := by
  have hbefore : ∀ c ∈ [a], p c = true := by simpa using ha
  have hafter : ∀ c ∈ [b], p c = true := by simpa using hb
  exact stripEnds_append hbefore hafter s

theorem exists_eq_append_stripEnds (p : Char → Bool) (s : List Char) :
    ∃ before after, s = before ++ stripEnds p s ++ after ∧ (∀ c ∈ before, p c = true) ∧
      ∀ c ∈ after, p c = true := by
  refine ⟨s.takeWhile p, (s.dropWhile p).rtakeWhile p, ?_, fun _ => List.mem_takeWhile_imp,
    fun _ => List.mem_rtakeWhile_imp⟩
  have hright : stripEnds p s ++ (s.dropWhile p).rtakeWhile p = s.dropWhile p :=
    List.rdropWhile_append_rtakeWhile
  rw [List.append_assoc, hright, List.takeWhile_append_dropWhile]

/-- Whether neither end of a text is in a class of characters. -/
def EndsAvoid (p : Char → Bool) (s : List Char) : Prop :=
  ∀ c, s.head? = some c ∨ s.getLast? = some c → p c = false

instance (p : Char → Bool) (s : List Char) : Decidable (EndsAvoid p s) :=
  decidable_of_iff ((s.head?.all (!p ·) && s.getLast?.all (!p ·)) = true)
    (by simp [EndsAvoid, or_imp, forall_and, Option.all_eq_true])

theorem EndsAvoid.stripEnds (h : EndsAvoid p s) : stripEnds p s = s :=
  stripEnds_of_ends (fun c hc => h c (.inl hc)) fun c hc => h c (.inr hc)

theorem EndsAvoid.mono (h : EndsAvoid p s) {q : Char → Bool}
    (hq : ∀ c, q c = true → p c = true) : EndsAvoid q s := by
  intro c hc
  rw [← Bool.not_eq_true]
  intro hqc
  have hpc := h c hc
  rw [hq c hqc] at hpc
  cases hpc

theorem EndsAvoid.cons (h : EndsAvoid p s) (hs : s ≠ []) (hc : p c = false) :
    EndsAvoid p (c :: s) := by
  obtain ⟨d, t, rfl⟩ := List.exists_cons_of_ne_nil hs
  rintro x (hx | hx)
  · cases hx
    exact hc
  · rw [List.getLast?_cons_cons] at hx
    exact h x (.inr hx)

theorem endsAvoid_enclosed {a b : Char} (ha : p a = false) (hb : p b = false) (s : List Char) :
    EndsAvoid p (a :: s ++ [b]) := by
  intro c hc
  rw [List.getLast?_concat, List.cons_append, List.head?_cons, Option.some.injEq,
    Option.some.injEq] at hc
  rcases hc with rfl | rfl
  · exact ha
  · exact hb

/-- Only what is dropped at the ends can stand before the first character that is left. -/
theorem head?_stripEnds_append {blanks rest : List Char} (hblanks : ∀ d ∈ blanks, p d = true)
    (hc : p c = false) : (stripEnds p (blanks ++ c :: rest)).head? = some c := by
  have hne : stripEnds p (blanks ++ c :: rest) ≠ [] := by
    intro hnil
    have hpc := stripEnds_eq_nil_iff.mp hnil c (by simp)
    rw [hc] at hpc
    cases hpc
  have hprefix := stripEnds_isPrefix_dropWhile (p := p) (s := blanks ++ c :: rest)
  rw [List.dropWhile_append_of_pos hblanks, List.dropWhile_cons_of_neg (by simp [hc])] at hprefix
  obtain ⟨d, s, hs⟩ := List.exists_cons_of_ne_nil hne
  rw [hs, List.cons_prefix_cons] at hprefix
  rw [hs, hprefix.1, List.head?_cons]

end HostSnapshot.Text
