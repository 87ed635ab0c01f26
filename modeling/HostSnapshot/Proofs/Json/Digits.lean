import HostSnapshot.Json.Field
import HostSnapshot.Proofs.Json.Leaf
import HostSnapshot.Proofs.Text.Blank
import Mathlib.Tactic.SplitIfs

namespace HostSnapshot.Json.Integer

/-- The characters of a text, with an underscore between two of them or without. -/
inductive Parted : List Char → List Char → Prop
  | one {c : Char} (hc : c ≠ '_') : Parted [c] [c]
  | cons {c : Char} {s t : List Char} (hc : c ≠ '_') (h : Parted s t) : Parted (c :: s) (c :: t)
  | underscore {c : Char} {s t : List Char} (hc : c ≠ '_') (h : Parted s t) :
    Parted (c :: '_' :: s) (c :: t)

/-- Digits with no needless zero before them. -/
structure IsPlain (ds : List Char) : Prop where
  ne_nil : ds ≠ []
  digits : ∀ c ∈ ds, Text.isAsciiDigit c = true
  zero : ds.head? = some '0' → ds = ['0']

/-- Zeros before the digits that count, and underscores behind the first of them. -/
structure IsPadding (zeros : List Char) : Prop where
  mem : ∀ c ∈ zeros, c = '0' ∨ c = '_'
  head : zeros.head? ≠ some '_'

inductive IsFraction : List Char → Prop
  | none : IsFraction []
  | zeros {zeros : List Char} (hne : zeros ≠ []) (h : ∀ c ∈ zeros, c = '0') :
    IsFraction ('.' :: zeros)

/-- Digits after some zeros. A minus sign may stand between the zeros and the digits. -/
inductive IsUnsigned : List Char → Bool → List Char → Prop
  | digits {zeros s ds : List Char} (hzeros : IsPadding zeros) (hs : Parted s ds)
    (hds : IsPlain ds) : IsUnsigned (zeros ++ s) false ds
  | minus {zeros s ds : List Char} (hzeros : IsPadding zeros) (hne : zeros ≠ [])
    (hs : Parted s ('-' :: ds)) (hds : IsPlain ds) : IsUnsigned (zeros ++ s) true ds

variable {c : Char} {s t ds fraction zeros : List Char} {negative : Bool}

theorem hasPair_cons_of_ne (hc : c ≠ '_') (s : List Char) :
    Text.hasPair '_' (c :: s) = Text.hasPair '_' s := by
  simp [Text.hasPair, Text.occurs, hc.symm]

theorem hasPair_underscore (hs : s.head? ≠ some '_') :
    Text.hasPair '_' ('_' :: s) = Text.hasPair '_' s := by
  cases s with
  | nil => rfl
  | cons c s =>
    have hc : c ≠ '_' := by simpa using hs
    simp [Text.hasPair, Text.occurs, hc.symm]

theorem Parted.ne_nil (h : Parted s t) : t ≠ [] := by
  cases h <;> exact List.cons_ne_nil _ _

theorem Parted.notMem (h : Parted s t) : '_' ∉ t := by
  induction h with
  | one hc => simpa using hc.symm
  | cons hc _ ih => simpa using ⟨hc.symm, ih⟩
  | underscore hc _ ih => simpa using ⟨hc.symm, ih⟩

theorem Parted.head? (h : Parted s t) : s.head? = t.head? := by
  cases h <;> rfl

theorem Parted.head?_ne (h : Parted s t) : s.head? ≠ some '_' := by
  rw [h.head?]
  exact fun hhead => h.notMem (List.mem_of_head? hhead)

theorem Parted.getLast? (h : Parted s t) : s.getLast? = t.getLast? := by
  have last {s : List Char} (hs : s ≠ []) (c : Char) : (c :: s).getLast? = s.getLast? := by
    obtain ⟨d, s, rfl⟩ := List.exists_cons_of_ne_nil hs
    exact List.getLast?_cons_cons
  have hne {s t : List Char} (h : Parted s t) : s ≠ [] := by
    cases h <;> exact List.cons_ne_nil _ _
  induction h with
  | one hc => rfl
  | cons hc h ih => rw [last (hne h), last h.ne_nil, ih]
  | underscore hc h ih =>
    rw [List.getLast?_cons_cons, last (hne h), last h.ne_nil, ih]

theorem Parted.mem_or (h : Parted s t) : ∀ c ∈ s, c = '_' ∨ c ∈ t := by
  induction h with
  | one hc => simp
  | cons hc _ ih => grind
  | underscore hc _ ih => grind

theorem Parted.hasPair_eq_false (h : Parted s t) : Text.hasPair '_' s = false := by
  induction h with
  | one hc => exact hasPair_cons_of_ne hc []
  | cons hc _ ih => rw [hasPair_cons_of_ne hc, ih]
  | underscore hc h ih => rw [hasPair_cons_of_ne hc, hasPair_underscore h.head?_ne, ih]

theorem Parted.filter (h : Parted s t) : s.filter (· ≠ '_') = t := by
  induction h with
  | one hc => simp [hc]
  | cons hc _ ih => simpa [hc] using ih
  | underscore hc _ ih => simpa [hc] using ih

/-- Underscores fall away where each stands between two other characters. -/
theorem parted_filter : ∀ {s : List Char}, s ≠ [] → s.head? ≠ some '_' →
    s.getLast? ≠ some '_' → Text.hasPair '_' s = false → Parted s (s.filter (· ≠ '_'))
  | [], hne, _, _, _ => absurd rfl hne
  | [c], _, hhead, _, _ => by
    have hc : c ≠ '_' := by simpa using hhead
    simpa [hc] using Parted.one hc
  | c :: d :: s, _, hhead, hlast, hpair => by
    have hc : c ≠ '_' := by simpa using hhead
    rw [hasPair_cons_of_ne hc] at hpair
    rw [List.getLast?_cons_cons] at hlast
    by_cases hd : d = '_'
    · subst hd
      have hs : s ≠ [] := by
        rintro rfl
        exact hlast rfl
      have hnext : s.head? ≠ some '_' := by
        intro hnext
        obtain ⟨r, rfl⟩ := List.head?_eq_some_iff.mp hnext
        cases hpair
      rw [hasPair_underscore hnext] at hpair
      obtain ⟨e, r, rfl⟩ := List.exists_cons_of_ne_nil hs
      rw [List.getLast?_cons_cons] at hlast
      simpa [hc] using Parted.underscore hc (parted_filter hs hnext hlast hpair)
    · have h := parted_filter (List.cons_ne_nil d s) (by simpa using hd) hlast hpair
      rw [List.filter_cons_of_pos (by simpa using hc)]
      exact .cons hc h

theorem dropUnderscores_eq_iff (ht : t ≠ []) (hmem : '_' ∉ t) :
    dropUnderscores s = t ↔ Parted s t := by
  constructor
  · rintro rfl
    unfold dropUnderscores at ht hmem ⊢
    split_ifs at ht hmem ⊢ with hends
    · -- The underscore that keeps the others is still there.
      rcases hends with h | h | h
      · exact absurd (List.mem_of_head? h) hmem
      · exact absurd (List.mem_of_getLast? h) hmem
      · obtain ⟨before, after, hs⟩ := (Text.occurs_iff _ _).mp h
        exact absurd (hs ▸ by simp) hmem
    · simp only [not_or] at hends
      have hs : s ≠ [] := by
        rintro rfl
        exact ht rfl
      exact parted_filter hs hends.1 hends.2.1 (Bool.not_eq_true _ ▸ hends.2.2)
  · intro h
    have hlast : s.getLast? ≠ some '_' := by
      rw [h.getLast?]
      exact fun hlast => h.notMem (List.mem_of_getLast? hlast)
    rw [dropUnderscores, if_neg, h.filter]
    rintro (hhead | hend | hpair)
    · exact h.head?_ne hhead
    · exact hlast hend
    · rw [h.hasPair_eq_false] at hpair
      cases hpair

theorem dropFraction_append (ht : '.' ∉ t) (hf : IsFraction fraction) :
    dropFraction (t ++ fraction) = t := by
  have hpoint : ∀ c ∈ t, (decide (c ≠ '.')) = true := by
    intro c hc
    rw [decide_eq_true_eq]
    rintro rfl
    exact ht hc
  cases hf with
  | none =>
    have htail : t.dropWhile (· ≠ '.') = [] := List.dropWhile_eq_nil_iff.mpr hpoint
    rw [List.append_nil, dropFraction, htail]
    simp
  | zeros hne h =>
    have hpos := List.length_pos_iff.mpr hne
    unfold dropFraction
    rw [List.dropWhile_append_of_pos hpoint, List.takeWhile_append_of_pos hpoint]
    simpa [hpos] using h

theorem exists_eq_dropFraction_append (s : List Char) :
    ∃ fraction, IsFraction fraction ∧ s = dropFraction s ++ fraction := by
  unfold dropFraction
  dsimp only
  split_ifs with htail
  · obtain ⟨hlength, hzeros⟩ := htail
    refine ⟨s.dropWhile (· ≠ '.'), ?_, List.takeWhile_append_dropWhile.symm⟩
    have hpoint := List.head?_dropWhile_not (· ≠ '.') s
    cases htail : s.dropWhile (· ≠ '.') with
    | nil => exact .none
    | cons c zeros =>
      rw [htail] at hlength hzeros hpoint
      obtain rfl : c = '.' := by simpa using hpoint
      refine .zeros ?_ ?_
      · rintro rfl
        simp at hlength
      · simpa using hzeros
  · exact ⟨[], .none, (List.append_nil s).symm⟩

theorem IsPadding.exists_cons (h : IsPadding zeros) (hne : zeros ≠ []) :
    ∃ r, zeros = '0' :: r := by
  obtain ⟨c, r, rfl⟩ := List.exists_cons_of_ne_nil hne
  rcases h.mem c List.mem_cons_self with rfl | rfl
  · exact ⟨r, rfl⟩
  · exact absurd rfl h.head

theorem afterZero?_append (hzeros : ∀ c ∈ zeros, c = '0' ∨ c = '_') (last : Char) :
    afterZero? last (zeros ++ s) = afterZero? (zeros.getLastD last) s := by
  induction zeros generalizing last with
  | nil => rfl
  | cons c zeros ih =>
    rw [List.forall_mem_cons] at hzeros
    rw [List.cons_append, afterZero?, if_pos hzeros.1, ih hzeros.2, List.getLastD_cons]

theorem IsPlain.exists_cons (h : IsPlain ds) :
    ∃ c r, ds = c :: r ∧ Text.isAsciiDigit c = true ∧ (c = '0' → r = []) := by
  obtain ⟨c, r, rfl⟩ := List.exists_cons_of_ne_nil h.ne_nil
  refine ⟨c, r, rfl, h.digits c List.mem_cons_self, ?_⟩
  rintro rfl
  exact (List.cons.inj (h.zero rfl)).2

/-- What counts is a minus sign, a zero alone, or a digit that is none. -/
theorem Parted.exists_cons (h : Parted s (withMinus negative ds)) (hds : IsPlain ds) :
    ∃ c r, s = c :: r ∧ (negative = true ∧ c = '-' ∨ negative = false ∧
      Text.isAsciiDigit c = true ∧ (c = '0' → r = [])) := by
  obtain ⟨d, r, rfl, hd, hzero⟩ := hds.exists_cons
  cases negative with
  | true => cases h <;> exact ⟨_, _, rfl, .inl ⟨rfl, rfl⟩⟩
  | false =>
    cases h with
    | one hc => exact ⟨_, _, rfl, .inr ⟨rfl, hd, fun _ => rfl⟩⟩
    | cons hc h => exact ⟨_, _, rfl, .inr ⟨rfl, hd, fun h0 => absurd (hzero h0) h.ne_nil⟩⟩
    | underscore hc h => exact ⟨_, _, rfl, .inr ⟨rfl, hd, fun h0 => absurd (hzero h0) h.ne_nil⟩⟩

theorem afterZero?_of_parted (h : Parted s (withMinus negative ds)) (hds : IsPlain ds)
    (hf : IsFraction fraction) (last : Char) :
    afterZero? last (s ++ fraction) = some (s ++ fraction) := by
  obtain ⟨c, r, rfl, ⟨-, rfl⟩ | ⟨-, hc, hzero⟩⟩ := h.exists_cons hds
  · rfl
  · by_cases h0 : c = '0'
    · obtain rfl := hzero h0
      subst h0
      cases hf <;> rfl
    · have hne : ¬ (c = '0' ∨ c = '_') := by
        rintro (hc0 | rfl)
        · exact h0 hc0
        · cases hc
      rw [List.cons_append, afterZero?, if_neg hne, if_pos (.inl hc)]

theorem dropZeros?_of_isUnsigned (h : IsUnsigned s negative ds) (hf : IsFraction fraction) :
    ∃ t, Parted t (withMinus negative ds) ∧ dropZeros? (s ++ fraction) = some (t ++ fraction) := by
  have padded {zeros t : List Char} (hz : IsPadding zeros) (hne : zeros ≠ [])
      (ht : Parted t (withMinus negative ds)) (hds : IsPlain ds) :
      dropZeros? (zeros ++ t ++ fraction) = some (t ++ fraction) := by
    obtain ⟨zeros, rfl⟩ := hz.exists_cons hne
    rw [List.append_assoc, List.cons_append, dropZeros?, if_pos rfl,
      afterZero?_append fun c hc => hz.mem c (List.mem_cons_of_mem _ hc)]
    exact afterZero?_of_parted ht hds hf _
  cases h with
  | @digits zeros t _ hz ht hds =>
    refine ⟨t, ht, ?_⟩
    -- Without zeros in front only a zero that is the number itself could be dropped.
    by_cases hne : zeros = []
    · subst hne
      have ht' : Parted t (withMinus false ds) := ht
      obtain ⟨c, r, rfl, ⟨h, -⟩ | ⟨-, hc, hzero⟩⟩ := ht'.exists_cons hds
      · cases h
      · rw [List.nil_append, List.cons_append, dropZeros?]
        split_ifs with h0
        · obtain rfl := hzero h0
          subst h0
          cases hf <;> rfl
        · rfl
    · exact padded hz hne ht hds
  | minus hz hne ht hds => exact ⟨_, ht, padded hz hne ht hds⟩

theorem exists_isPadding_of_afterZero? {last : Char} (hlast : last = '0' ∨ last = '_')
    (h : afterZero? last s = some t) :
    ∃ zeros, (∀ c ∈ zeros, c = '0' ∨ c = '_') ∧ last :: s = zeros ++ t ∧
      (t.head? = some '-' → zeros ≠ []) := by
  -- On the text, for either character before it: a zero or an underscore.
  induction s generalizing last with
  | nil =>
    cases h
    refine ⟨[], by simp, rfl, ?_⟩
    rintro ⟨⟩
    simp at hlast
  | cons c s ih =>
    rw [afterZero?] at h
    split_ifs at h with hzero hdigit hpoint
    · obtain ⟨zeros, hzeros, hs, -⟩ := ih hzero h
      refine ⟨last :: zeros, List.forall_mem_cons.mpr ⟨hlast, hzeros⟩, ?_, ?_⟩
      · rw [hs, List.cons_append]
      · exact fun _ => List.cons_ne_nil _ _
    · cases h
      exact ⟨[last], by simpa using hlast, rfl, fun _ => List.cons_ne_nil _ _⟩
    · cases h
      refine ⟨[], by simp, rfl, ?_⟩
      rintro ⟨⟩
      simp at hlast

theorem exists_isPadding_of_dropZeros? (h : dropZeros? s = some t) :
    ∃ zeros, IsPadding zeros ∧ s = zeros ++ t ∧ (t.head? = some '-' → zeros ≠ []) := by
  cases s with
  | nil => cases h
  | cons c s =>
    rw [dropZeros?] at h
    split_ifs at h with hzero hdigit
    · subst hzero
      obtain ⟨zeros, hzeros, hs, hne⟩ := exists_isPadding_of_afterZero? (.inl rfl) h
      refine ⟨zeros, ⟨hzeros, ?_⟩, hs, hne⟩
      cases zeros with
      | nil => simp
      | cons d zeros =>
        obtain ⟨rfl, -⟩ := List.cons.inj hs
        simp
    · cases h
      refine ⟨[], ⟨by simp, by simp⟩, rfl, ?_⟩
      rintro ⟨⟩
      cases hdigit

end HostSnapshot.Json.Integer
