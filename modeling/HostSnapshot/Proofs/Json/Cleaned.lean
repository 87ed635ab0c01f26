import HostSnapshot.Proofs.Json.Digits

namespace HostSnapshot.Json.Integer

/-- A minus sign stands before the zeros or behind them, not in both places. -/
inductive IsSigned : List Char → Bool → List Char → Prop
  | bare {s ds : List Char} {negative : Bool} (h : IsUnsigned s negative ds) :
    IsSigned s negative ds
  | plus {s ds : List Char} {negative : Bool} (h : IsUnsigned s negative ds) :
    IsSigned ('+' :: s) negative ds
  | minus {s ds : List Char} (h : IsUnsigned s false ds) : IsSigned ('-' :: s) true ds

variable {c : Char} {s t ds fraction : List Char} {negative : Bool}

/-- Where no zero comes first, there is no sign and no padding. -/
theorem IsUnsigned.head_cases (h : IsUnsigned s negative ds) :
    (∃ r, s = '0' :: r) ∨ negative = false ∧ Parted s ds := by
  cases h with
  | @digits zeros t _ hz ht _ =>
    by_cases hne : zeros = []
    · subst hne
      exact .inr ⟨rfl, ht⟩
    · obtain ⟨zeros, rfl⟩ := hz.exists_cons hne
      exact .inl ⟨_, rfl⟩
  | minus hz hne _ _ =>
    obtain ⟨zeros, rfl⟩ := hz.exists_cons hne
    exact .inl ⟨_, rfl⟩

theorem IsUnsigned.isPlain (h : IsUnsigned s negative ds) : IsPlain ds := by
  cases h <;> assumption

theorem IsUnsigned.exists_cons (h : IsUnsigned s negative ds) :
    ∃ c r, s = c :: r ∧ Text.isAsciiDigit c = true := by
  rcases h.head_cases with ⟨r, rfl⟩ | ⟨-, hs⟩
  · exact ⟨_, r, rfl, rfl⟩
  · have hs' : Parted s (withMinus false ds) := hs
    obtain ⟨c, r, rfl, ⟨hfalse, -⟩ | ⟨-, hc, -⟩⟩ := hs'.exists_cons h.isPlain
    · cases hfalse
    · exact ⟨c, r, rfl, hc⟩

/-- The characters of which integers are made, besides blanks. -/
def isMark (c : Char) : Bool :=
  Text.isAsciiDigit c || c == '+' || c == '-' || c == '_' || c == '.'

theorem not_isSpace_of_isMark (h : isMark c = true) : Text.Integer.isSpace c = false := by
  rw [Text.Integer.isSpace, Text.not_isBlank_of_class (by decide) h, Bool.false_and]

theorem not_isAsciiDigit_of_isSpace (h : Text.Integer.isSpace c = true) :
    Text.isAsciiDigit c = false := by
  rw [← Bool.not_eq_true]
  intro hc
  rw [not_isSpace_of_isMark (by simp [isMark, hc])] at h
  cases h

theorem Parted.isMark (h : Parted s (withMinus negative ds)) (hds : IsPlain ds) :
    ∀ c ∈ s, isMark c = true ∧ c ≠ '.' := by
  intro c hc
  have hdigit (hmem : c ∈ ds) : Integer.isMark c = true ∧ c ≠ '.' := by
    refine ⟨by simp [Integer.isMark, hds.digits c hmem], ?_⟩
    rintro rfl
    cases hds.digits _ hmem
  rcases h.mem_or c hc with rfl | hmem
  · exact ⟨rfl, by decide⟩
  · cases negative with
    | true =>
      rcases List.mem_cons.mp hmem with rfl | hmem
      · exact ⟨rfl, by decide⟩
      · exact hdigit hmem
    | false => exact hdigit hmem

theorem IsUnsigned.isMark (h : IsUnsigned s negative ds) : ∀ c ∈ s, isMark c = true := by
  have padded {zeros t : List Char} (hz : IsPadding zeros) (ht : Parted t (withMinus negative ds))
      (hds : IsPlain ds) : ∀ c ∈ zeros ++ t, Integer.isMark c = true := by
    intro c hc
    rcases List.mem_append.mp hc with hc | hc
    · rcases hz.mem c hc with rfl | rfl <;> rfl
    · exact (ht.isMark hds c hc).1
  cases h with
  | digits hz ht hds => exact padded hz ht hds
  | minus hz _ ht hds => exact padded hz ht hds

theorem IsFraction.isMark (h : IsFraction fraction) : ∀ c ∈ fraction, isMark c = true := by
  cases h with
  | none => simp
  | zeros _ h =>
    rw [List.forall_mem_cons]
    refine ⟨rfl, fun c hc => ?_⟩
    rw [h c hc]
    rfl

theorem IsSigned.isMark (h : IsSigned s negative ds) : ∀ c ∈ s, isMark c = true := by
  cases h with
  | bare h => exact h.isMark
  | plus h => exact List.forall_mem_cons.mpr ⟨rfl, h.isMark⟩
  | minus h => exact List.forall_mem_cons.mpr ⟨rfl, h.isMark⟩

theorem IsSigned.stripEnds {before after : List Char} (h : IsSigned s negative ds)
    (hf : IsFraction fraction) (hbefore : ∀ c ∈ before, Text.Integer.isSpace c = true)
    (hafter : ∀ c ∈ after, Text.Integer.isSpace c = true) :
    Text.stripEnds Text.Integer.isSpace (before ++ (s ++ fraction) ++ after) = s ++ fraction := by
  rw [Text.stripEnds_append hbefore hafter]
  apply Text.stripEnds_of_forall
  intro c hc
  rcases List.mem_append.mp hc with hc | hc
  · exact not_isSpace_of_isMark (h.isMark c hc)
  · exact not_isSpace_of_isMark (hf.isMark c hc)

theorem withMinus_unsigned (s : List Char) : withMinus (unsigned s).1 (unsigned s).2 = s := by
  unfold unsigned
  split <;> rfl

theorem IsPlain.withMinus_ne_nil (h : IsPlain ds) (negative : Bool) :
    withMinus negative ds ≠ [] := by
  cases negative with
  | true => exact List.cons_ne_nil _ _
  | false => exact h.ne_nil

theorem IsPlain.notMem_withMinus (h : IsPlain ds) (negative : Bool) :
    '_' ∉ withMinus negative ds := by
  have hmem : '_' ∉ ds := by
    intro hmem
    cases h.digits _ hmem
  cases negative with
  | true => simpa [withMinus] using hmem
  | false => exact hmem

theorem IsPlain.withMinus_eq_cons (h : IsPlain ds) (hs : withMinus negative ds = '-' :: s) :
    negative = true ∧ s = ds := by
  cases negative with
  | true => exact ⟨rfl, (List.cons.inj hs).2.symm⟩
  | false =>
    obtain ⟨c, r, rfl, hc, -⟩ := h.exists_cons
    cases hs
    cases hc

theorem unsigned_of_ne (h : c ≠ '-') (s : List Char) : unsigned (c :: s) = (false, c :: s) := by
  unfold unsigned
  split
  · next hc => exact absurd (List.cons.inj hc).1 h
  · rfl

theorem unsigned_of_isAsciiDigit (h : Text.isAsciiDigit c = true) (s : List Char) :
    unsigned (c :: s) = (false, c :: s) := by
  apply unsigned_of_ne
  rintro rfl
  cases h

theorem withoutPlus?_of_isAsciiDigit (h : Text.isAsciiDigit c = true) (s : List Char) :
    withoutPlus? (c :: s) = some (c :: s) := by
  unfold withoutPlus?
  split
  · next hc =>
    cases hc
    cases h
  · next hc =>
    cases hc
    cases h
  · rfl

theorem withoutPlus?_plus (h : Text.isAsciiDigit c = true) (s : List Char) :
    withoutPlus? ('+' :: c :: s) = some (c :: s) := by
  rw [withoutPlus?]
  rintro _ ⟨⟩
  cases h

theorem IsPlain.unsigned_withMinus (h : IsPlain ds) (negative : Bool) :
    unsigned (withMinus negative ds) = (negative, ds) := by
  cases negative with
  | true => rfl
  | false =>
    obtain ⟨c, r, rfl, hc, -⟩ := h.exists_cons
    exact unsigned_of_isAsciiDigit hc r

theorem IsSigned.isPlain (h : IsSigned s negative ds) : IsPlain ds := by
  cases h with
  | bare h => exact h.isPlain
  | plus h => exact h.isPlain
  | minus h => exact h.isPlain

theorem IsUnsigned.cleaned (h : IsUnsigned s negative ds) (hf : IsFraction fraction)
    (outer : Bool) : (dropZeros? (s ++ fraction)).map (fun t =>
      withMinus outer (dropUnderscores (dropFraction t))) =
      some (withMinus outer (withMinus negative ds)) := by
  have hds := h.isPlain
  obtain ⟨t, ht, hzeros⟩ := dropZeros?_of_isUnsigned h hf
  have hpoint : '.' ∉ t := fun hmem => (ht.isMark hds _ hmem).2 rfl
  rw [hzeros, Option.map_some, dropFraction_append hpoint hf,
    (dropUnderscores_eq_iff ht.ne_nil ht.notMem).mpr ht]

theorem cleaned?_eq_map {r : List Char}
    (h : withoutPlus? (Text.stripEnds Text.Integer.isSpace s) = some r) :
    cleaned? s = (dropZeros? (unsigned r).2).map fun t =>
      withMinus (unsigned r).1 (dropUnderscores (dropFraction t)) := by
  rw [cleaned?, h]
  rfl

theorem cleaned?_of_isSigned {before after : List Char} (h : IsSigned s negative ds)
    (hf : IsFraction fraction) (hbefore : ∀ c ∈ before, Text.Integer.isSpace c = true)
    (hafter : ∀ c ∈ after, Text.Integer.isSpace c = true) :
    cleaned? (before ++ (s ++ fraction) ++ after) = some (withMinus negative ds) := by
  have hstrip := h.stripEnds hf hbefore hafter
  cases h with
  | bare h =>
    obtain ⟨c, r, rfl, hc⟩ := h.exists_cons
    rw [cleaned?_eq_map (by rw [hstrip]; exact withoutPlus?_of_isAsciiDigit hc (r ++ fraction)),
      unsigned_of_isAsciiDigit hc]
    exact h.cleaned hf false
  | plus h =>
    obtain ⟨c, r, rfl, hc⟩ := h.exists_cons
    rw [cleaned?_eq_map (by rw [hstrip]; exact withoutPlus?_plus hc (r ++ fraction)),
      unsigned_of_isAsciiDigit hc]
    exact h.cleaned hf false
  | minus h =>
    rw [cleaned?_eq_map (by rw [hstrip]; rfl)]
    exact h.cleaned hf true

theorem withoutPlus?_eq_some (h : withoutPlus? s = some t) :
    s = t ∨ s = '+' :: t ∧ t.head? ≠ some '-' := by
  unfold withoutPlus? at h
  split at h
  · cases h
  · next r hr =>
    cases h
    refine .inr ⟨rfl, fun hhead => ?_⟩
    obtain ⟨r, rfl⟩ := List.head?_eq_some_iff.mp hhead
    exact hr r rfl
  · cases h
    exact .inl rfl

theorem exists_isUnsigned_of_dropZeros? (negative : Bool) (h : dropZeros? s = some t)
    (hclean : dropUnderscores (dropFraction t) = withMinus negative ds) (hds : IsPlain ds) :
    ∃ u fraction, s = u ++ fraction ∧ IsUnsigned u negative ds ∧ IsFraction fraction := by
  have hparted := (dropUnderscores_eq_iff (hds.withMinus_ne_nil negative)
    (hds.notMem_withMinus negative)).mp hclean
  obtain ⟨fraction, hf, hfraction⟩ := exists_eq_dropFraction_append t
  obtain ⟨zeros, hpadding, hs, hne⟩ := exists_isPadding_of_dropZeros? h
  refine ⟨zeros ++ dropFraction t, fraction, ?_, ?_, hf⟩
  · rw [List.append_assoc, ← hfraction, hs]
  · cases negative with
    | false => exact .digits hpadding hparted hds
    | true =>
      obtain ⟨c, u, hu, ⟨-, rfl⟩ | ⟨hfalse, -⟩⟩ := hparted.exists_cons hds
      · refine .minus hpadding (hne ?_) hparted hds
        rw [hfraction, hu]
        rfl
      · cases hfalse

/-- A text is an integer if it can be cleaned to one. -/
theorem exists_isSigned_of_cleaned? (h : cleaned? s = some (withMinus negative ds))
    (hds : IsPlain ds) : ∃ before t fraction after, s = before ++ (t ++ fraction) ++ after ∧
      (∀ c ∈ before, Text.Integer.isSpace c = true) ∧ IsSigned t negative ds ∧
      IsFraction fraction ∧ ∀ c ∈ after, Text.Integer.isSpace c = true := by
  obtain ⟨before, after, hs, hbefore, hafter⟩ :=
    Text.exists_eq_append_stripEnds Text.Integer.isSpace s
  suffices hsigned : ∃ t fraction, Text.stripEnds Text.Integer.isSpace s = t ++ fraction ∧
      IsSigned t negative ds ∧ IsFraction fraction by
    obtain ⟨t, fraction, ht, hsigned, hf⟩ := hsigned
    exact ⟨before, t, fraction, after, ht ▸ hs, hbefore, hsigned, hf, hafter⟩
  cases hplus : withoutPlus? (Text.stripEnds Text.Integer.isSpace s) with
  | none =>
    rw [cleaned?, hplus] at h
    cases h
  | some r =>
    rw [cleaned?_eq_map hplus, Option.map_eq_some_iff] at h
    obtain ⟨t, hzeros, ht⟩ := h
    have hr := withMinus_unsigned r
    cases houter : (unsigned r).1 with
    | true =>
      rw [houter] at ht hr
      -- A sign was taken off, so there is none behind it.
      obtain ⟨rfl, hclean⟩ := hds.withMinus_eq_cons ht.symm
      obtain ⟨u, fraction, hu, hunsigned, hf⟩ :=
        exists_isUnsigned_of_dropZeros? false hzeros hclean hds
      rw [hu] at hr
      refine ⟨'-' :: u, fraction, ?_, .minus hunsigned, hf⟩
      rcases withoutPlus?_eq_some hplus with hs | ⟨-, hhead⟩
      · rw [hs, ← hr]
        rfl
      · exact absurd (hr ▸ rfl) hhead
    | false =>
      rw [houter] at ht hr
      obtain ⟨u, fraction, hu, hunsigned, hf⟩ :=
        exists_isUnsigned_of_dropZeros? negative hzeros ht hds
      rw [hu] at hr
      rcases withoutPlus?_eq_some hplus with hs | ⟨hs, -⟩
      · exact ⟨u, fraction, hs.trans hr.symm, .bare hunsigned, hf⟩
      · refine ⟨'+' :: u, fraction, ?_, .plus hunsigned, hf⟩
        rw [hs, ← hr]
        rfl

end HostSnapshot.Json.Integer
