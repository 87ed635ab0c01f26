import HostSnapshot.Snapshot.Basic
import Mathlib.Data.List.Infix
import Mathlib.Logic.Function.Basic

namespace HostSnapshot

/-- A word does not go past a character that it does not hold. -/
theorem Text.infix_append_cons_iff {α : Type} {w a b : List α} {c : α} (hc : c ∉ w) :
    w <:+: a ++ c :: b ↔ w <:+: a ∨ w <:+: b := by
  have hhead {u : List α} (hu : c ∉ u) (h : u <+: c :: b) : u = [] := by
    rcases List.prefix_cons_iff.mp h with hnil | ⟨t, rfl, -⟩
    · exact hnil
    · exact absurd List.mem_cons_self hu
  constructor
  · intro h
    rcases List.infix_append_iff.mp h with h | h | ⟨u, t, rfl, hu, ht⟩
    · exact .inl h
    · rcases List.infix_cons_iff.mp h with h | h
      · rw [hhead hc h]
        exact .inl List.nil_infix
      · exact .inr h
    · have hnil := hhead (fun hmem => hc (List.mem_append_right u hmem)) ht
      rw [hnil, List.append_nil]
      exact .inl hu.isInfix
  · rintro (h | h)
    · exact h.trans (List.infix_append' [] a (c :: b))
    · exact (List.infix_cons h).trans (List.suffix_append a (c :: b)).isInfix

namespace Boot

/-- A command line with one of the markers of a boot. -/
def IsMarked (boot : Boot) (s : List Char) : Prop := ∃ m ∈ boot.markers, m.toList <:+: s

variable {boot : Boot} {s a b : List Char}

theorem any_occurs_iff :
    (boot.markers.any fun m => Text.occurs m.toList s) = true ↔ boot.IsMarked s := by
  simp only [List.any_eq_true, Text.occurs_iff, IsMarked]

theorem mem_all (boot : Boot) : boot ∈ all := by
  cases boot <;> decide

theorem pairwise_all : all.Pairwise fun a b => b.priority < a.priority := by decide

theorem priority_injective : Function.Injective priority := by
  intro a b h
  cases a <;> cases b <;> first | rfl | cases h

theorem isMarked_classify (h : classify s ≠ unknown) : (classify s).IsMarked s := by
  unfold classify at h ⊢
  cases hfind : all.find? fun boot => boot.markers.any fun m => Text.occurs m.toList s with
  | none => exact absurd (by rw [hfind]; rfl) h
  | some found =>
    have hfound := List.find?_some hfind
    exact any_occurs_iff.mp hfound

theorem IsMarked.priority_le (h : boot.IsMarked s) : boot.priority ≤ (classify s).priority := by
  have hboot := any_occurs_iff.mpr h
  have hmem := mem_all boot
  unfold classify
  cases hfind : all.find? fun boot => boot.markers.any fun m => Text.occurs m.toList s with
  | none => exact absurd hboot (List.find?_eq_none.mp hfind boot hmem)
  | some found =>
    obtain ⟨-, before, after, hall, hbefore⟩ := List.find?_eq_some_iff_append.mp hfind
    have hsorted := pairwise_all
    rw [hall] at hmem hsorted
    rcases List.mem_append.mp hmem with hmem | hmem
    · have hnot := hbefore boot hmem
      rw [hboot] at hnot
      cases hnot
    · rcases List.mem_cons.mp hmem with rfl | hmem
      · exact Nat.le_refl _
      · exact Nat.le_of_lt ((List.pairwise_cons.mp (List.pairwise_append.mp hsorted).2.1).1 _ hmem)

/-- The boot is the first one, in the order in which they are looked for, that has a marker. -/
theorem classify_of_first {before after : List Boot} (hall : all = before ++ boot :: after)
    (hbefore : ∀ other ∈ before, ¬ other.IsMarked s) (h : boot.IsMarked s) :
    classify s = boot := by
  have hnone : ∀ other ∈ before,
      (!other.markers.any fun m => Text.occurs m.toList s) = true := by
    intro other hother
    rw [Bool.not_eq_true', ← Bool.not_eq_true, any_occurs_iff]
    exact hbefore other hother
  have hfind : all.find? (fun boot => boot.markers.any fun m => Text.occurs m.toList s) =
      some boot :=
    List.find?_eq_some_iff_append.mpr ⟨any_occurs_iff.mpr h, before, after, hall, hnone⟩
  unfold classify
  rw [hfind]
  rfl

theorem classify_of_none (h : ∀ boot : Boot, ¬ boot.IsMarked s) : classify s = unknown :=
  Classical.byContradiction fun hs => h _ (isMarked_classify hs)

theorem priority_classify_mono (h : ∀ boot : Boot, boot.IsMarked a → boot.IsMarked s) :
    (classify a).priority ≤ (classify s).priority := by
  by_cases ha : classify a = unknown
  · rw [ha]
    exact Nat.zero_le _
  · exact (h _ (isMarked_classify ha)).priority_le

theorem classify_congr (h : ∀ boot : Boot, boot.IsMarked a ↔ boot.IsMarked b) :
    classify a = classify b :=
  priority_injective <| Nat.le_antisymm (priority_classify_mono fun boot => (h boot).mp)
    (priority_classify_mono fun boot => (h boot).mpr)

theorem IsMarked.of_infix (h : boot.IsMarked a) (hs : a <:+: s) : boot.IsMarked s := by
  obtain ⟨m, hm, ha⟩ := h
  exact ⟨m, hm, ha.trans hs⟩

theorem isWord_of_mem_markers {m : String} (h : m ∈ boot.markers) :
    m.toList ≠ [] ∧ ' ' ∉ m.toList := by
  have hall : ∀ boot : Boot, ∀ m ∈ boot.markers, m.toList ≠ [] ∧ ' ' ∉ m.toList := by
    intro boot
    cases boot <;> decide
  exact hall boot m h

theorem isMarked_append_iff :
    boot.IsMarked (a ++ ' ' :: b) ↔ boot.IsMarked a ∨ boot.IsMarked b := by
  constructor
  · rintro ⟨m, hm, h⟩
    rcases (Text.infix_append_cons_iff (isWord_of_mem_markers hm).2).mp h with h | h
    · exact .inl ⟨m, hm, h⟩
    · exact .inr ⟨m, hm, h⟩
  · rintro (⟨m, hm, h⟩ | ⟨m, hm, h⟩)
    · exact ⟨m, hm, (Text.infix_append_cons_iff (isWord_of_mem_markers hm).2).mpr (.inl h)⟩
    · exact ⟨m, hm, (Text.infix_append_cons_iff (isWord_of_mem_markers hm).2).mpr (.inr h)⟩

/-- A command line of some parameters, with one blank between each and the next. -/
def joined (parameters : List (List Char)) : List Char := [' '].intercalate parameters

theorem isMarked_joined_iff {parameters : List (List Char)} :
    boot.IsMarked (joined parameters) ↔ ∃ p ∈ parameters, boot.IsMarked p := by
  induction parameters with
  | nil =>
    refine iff_of_false ?_ (by simp)
    rintro ⟨m, hm, h⟩
    exact (isWord_of_mem_markers hm).1 (List.infix_nil.mp h)
  | cons p parameters ih =>
    cases parameters with
    | nil => simp [joined, List.intercalate_singleton]
    | cons q rest =>
      have hjoined : joined (p :: q :: rest) = p ++ ' ' :: joined (q :: rest) := by
        rw [joined, List.intercalate_cons_cons, List.append_assoc]
        rfl
      rw [hjoined, isMarked_append_iff, ih]
      simp

theorem priority_classify_append : (classify (a ++ ' ' :: b)).priority =
    max (classify a).priority (classify b).priority := by
  apply Nat.le_antisymm
  · by_cases hs : classify (a ++ ' ' :: b) = unknown
    · rw [hs]
      exact Nat.zero_le _
    · rcases isMarked_append_iff.mp (isMarked_classify hs) with h | h
      · exact h.priority_le.trans (Nat.le_max_left _ _)
      · exact h.priority_le.trans (Nat.le_max_right _ _)
  · apply Nat.max_le.mpr
    exact ⟨priority_classify_mono fun _ h => isMarked_append_iff.mpr (.inl h),
      priority_classify_mono fun _ h => isMarked_append_iff.mpr (.inr h)⟩

theorem classify_joined (parameters : List (List Char)) :
    classify (joined parameters) = unknown ∨
      ∃ p ∈ parameters, classify (joined parameters) = classify p := by
  by_cases hs : classify (joined parameters) = unknown
  · exact .inl hs
  · obtain ⟨p, hp, hmarked⟩ := isMarked_joined_iff.mp (isMarked_classify hs)
    have hle : (classify p).priority ≤ (classify (joined parameters)).priority :=
      priority_classify_mono fun _ h => isMarked_joined_iff.mpr ⟨p, hp, h⟩
    exact .inr ⟨p, hp, priority_injective (Nat.le_antisymm hmarked.priority_le hle)⟩

/-- Of two texts with a blank between them the higher boot counts. So the boot of some parameters is
the highest one among them, in whatever order they are, and a longer command line has no lower boot
than a part of it. -/
theorem classify_parameters :
    (∀ a b, classify (a ++ ' ' :: b) =
      if (classify a).priority < (classify b).priority then classify b else classify a) ∧
    (∀ parameters,
      (∀ p ∈ parameters, (classify p).priority ≤ (classify (joined parameters)).priority) ∧
      (classify (joined parameters) = unknown ∨
        ∃ p ∈ parameters, classify (joined parameters) = classify p)) ∧
    (∀ parameters others, List.Perm parameters others →
      classify (joined parameters) = classify (joined others)) ∧
    ∀ before s after, (classify s).priority ≤ (classify (before ++ s ++ after)).priority := by
  refine ⟨?_, ?_, ?_, ?_⟩
  · intro a b
    -- Boots are told apart by their priorities, and of these the greater one counts.
    apply priority_injective
    rw [priority_classify_append]
    split <;> omega
  · intro parameters
    refine ⟨fun p hp => ?_, classify_joined parameters⟩
    exact priority_classify_mono fun _ h => isMarked_joined_iff.mpr ⟨p, hp, h⟩
  · intro parameters others hperm
    apply classify_congr
    intro boot
    simp only [isMarked_joined_iff, hperm.mem_iff]
  · intro before s after
    exact priority_classify_mono fun _ h => h.of_infix ⟨before, after, rfl⟩

def networkRecovery : List (List Char) :=
  ["quiet".toList, "netboot".toList, "root=LABEL=COS_SYSTEM".toList]

theorem classify_networkRecovery :
    networkRecovery.Perm networkRecovery.reverse ∧
    classify (joined networkRecovery) = recovery ∧
    classify (joined networkRecovery.reverse) = recovery ∧
    classify (joined networkRecovery ++ " COS_PASSIVE".toList) = passive := by
  obtain ⟨hpair, -, hperm, -⟩ := classify_parameters
  have hreverse : networkRecovery.Perm networkRecovery.reverse := (List.reverse_perm _).symm
  have hrecovery : classify (joined networkRecovery) = recovery := by decide
  refine ⟨hreverse, hrecovery, (hperm _ _ hreverse).symm.trans hrecovery, ?_⟩
  have hlonger := hpair (joined networkRecovery) "COS_PASSIVE".toList
  rw [hrecovery] at hlonger
  exact hlonger.trans (by decide)

end Boot

end HostSnapshot
