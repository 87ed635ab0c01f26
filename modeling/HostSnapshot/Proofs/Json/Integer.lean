import HostSnapshot.Proofs.Json.Cleaned

namespace HostSnapshot.Json.Integer

/-- A text that writes an integer: with blanks around it or without, and with no more characters
that count than a number may have, a minus sign among them. -/
inductive Writes : List Char → Int → Prop
  | intro {before s fraction after ds : List Char} {negative : Bool}
    (hbefore : ∀ c ∈ before, Text.Integer.isSpace c = true) (hs : IsSigned s negative ds)
    (hfraction : IsFraction fraction) (hafter : ∀ c ∈ after, Text.Integer.isSpace c = true)
    (hlength : (if negative then 1 else 0) + ds.length ≤ Text.Integer.maxDigits) :
    Writes (before ++ (s ++ fraction) ++ after)
      (if negative then -(Number.Decimal.natOfDigits ds : Int) else Number.Decimal.natOfDigits ds)

variable {s t ds : List Char} {negative : Bool}

theorem IsPlain.span (h : IsPlain ds) :
    ds.takeWhile Text.isAsciiDigit = ds ∧ ds.dropWhile Text.isAsciiDigit = [] :=
  ⟨List.takeWhile_eq_self_iff.mpr h.digits, List.dropWhile_eq_nil_iff.mpr h.digits⟩

theorem isPlain_zero : IsPlain ['0'] where
  ne_nil := List.cons_ne_nil _ _
  digits := by
    intro c hc
    rw [List.mem_singleton.mp hc]
    rfl
  zero := fun _ => rfl

theorem readWhole?_eq_some_iff : readWhole? s = some (ds, []) ↔ s = ds ∧ IsPlain ds := by
  constructor
  · intro h
    have hs := List.takeWhile_append_dropWhile (p := Text.isAsciiDigit) (l := s)
    have hdigits : ∀ c ∈ s.takeWhile Text.isAsciiDigit, Text.isAsciiDigit c = true :=
      fun _ => List.mem_takeWhile_imp
    rw [readWhole?] at h
    split at h
    · cases h
    · next htake =>
      simp only [Option.some.injEq, Prod.mk.injEq] at h
      rw [htake, h.2, List.append_nil] at hs
      exact ⟨hs.symm.trans h.1, h.1 ▸ isPlain_zero⟩
    · cases h
    · next hne _ hzero =>
      simp only [Option.some.injEq, Prod.mk.injEq] at h
      rw [h.2, List.append_nil] at hs
      rw [h.1] at hs hdigits
      refine ⟨hs.symm, ⟨?_, hdigits, ?_⟩⟩
      · rintro rfl
        exact hne h.1
      · intro hhead
        obtain ⟨r, rfl⟩ := List.head?_eq_some_iff.mp hhead
        exact (hzero r h.1).elim
  · rintro ⟨rfl, h⟩
    rw [readWhole?, h.span.1, h.span.2]
    split
    · exact absurd rfl h.ne_nil
    · rfl
    · next hne =>
      exact absurd (List.cons.inj (h.zero rfl)).2 hne
    · rfl

theorem ofPlain_eq_ok_iff {n : Int} : ofPlain s = .ok n ↔ ∃ negative ds,
    s = withMinus negative ds ∧ IsPlain ds ∧
      (if negative then 1 else 0) + ds.length ≤ Text.Integer.maxDigits ∧
      signed negative ds = n := by
  constructor
  · intro h
    unfold ofPlain at h
    dsimp only at h
    split_ifs at h with hlong
    split at h
    · next ds hread =>
      obtain ⟨hs, hds⟩ := readWhole?_eq_some_iff.mp hread
      refine ⟨(unsigned s).1, ds, ?_, hds, ?_, Except.ok.inj h⟩
      · rw [← hs, withMinus_unsigned]
      · rw [hs, hds.span.1] at hlong
        by_cases hzero : ds.head? = some '0'
        · rw [hds.zero hzero]
          split <;> decide
        · simpa [hzero, Dialect.admits] using hlong
    · cases h
  · rintro ⟨negative, ds, rfl, hds, hlength, rfl⟩
    have hshort : Dialect.strict.admits negative false ds = true := decide_eq_true hlength
    unfold ofPlain
    rw [hds.unsigned_withMinus]
    dsimp only
    rw [hds.span.1, hshort, if_neg (by simp), readWhole?_eq_some_iff.mpr ⟨rfl, hds⟩]

theorem ofPlain_eq_error {p : Problem} (h : ofPlain s = .error p) : p = .integerText ∨
    p = .integerSize ∧ ((unsigned s).2.takeWhile Text.isAsciiDigit).head? ≠ some '0' ∧
      Text.Integer.maxDigits < (if (unsigned s).1 then 1 else 0) +
        ((unsigned s).2.takeWhile Text.isAsciiDigit).length := by
  unfold ofPlain at h
  dsimp only at h
  split_ifs at h with hlong
  · cases h
    refine .inr ⟨rfl, hlong.1, ?_⟩
    simpa [Dialect.admits] using hlong.2
  · split at h
    · cases h
    · cases h
      exact .inl rfl

theorem IsPlain.parted (h : IsPlain ds) : Parted ds ds := by
  obtain ⟨c, r, rfl⟩ := List.exists_cons_of_ne_nil h.ne_nil
  have hdigits := h.digits
  clear h
  have hne {c : Char} (hc : Text.isAsciiDigit c = true) : c ≠ '_' := by
    rintro rfl
    cases hc
  induction r generalizing c with
  | nil => exact .one (hne (hdigits c List.mem_cons_self))
  | cons d r ih =>
    rw [List.forall_mem_cons] at hdigits
    exact .cons (hne hdigits.1) (ih d hdigits.2)

theorem IsPlain.isSigned (h : IsPlain ds) (negative : Bool) :
    IsSigned (withMinus negative ds) negative ds := by
  have hunsigned : IsUnsigned ([] ++ ds) false ds := .digits ⟨by simp, by simp⟩ h.parted h
  cases negative with
  | true => exact .minus hunsigned
  | false => exact .bare hunsigned

theorem IsPlain.cleaned? (h : IsPlain ds) (negative : Bool) :
    cleaned? (withMinus negative ds) = some (withMinus negative ds) := by
  have hclean : Integer.cleaned? ([] ++ (withMinus negative ds ++ []) ++ []) = _ :=
    cleaned?_of_isSigned (h.isSigned negative) .none (by simp) (by simp)
  simpa using hclean

/-- Digits up to an underscore or the end are no more than the digits that count. -/
theorem Parted.length_takeWhile_le {p : Char → Bool} {rest : List Char} (h : Parted s t)
    (hp : p '_' = false) (hrest : ∀ c, rest.head? = some c → p c = false) :
    ((s ++ rest).takeWhile p).length ≤ t.length := by
  induction h with
  | @one c hc =>
    have hnil : rest.takeWhile p = [] := by
      cases rest with
      | nil => rfl
      | cons d rest => simp [hrest d rfl]
    rw [List.singleton_append, List.takeWhile_cons]
    split <;> simp [hnil]
  | cons hc _ ih =>
    rw [List.cons_append, List.takeWhile_cons]
    split
    · simpa using ih
    · simp
  | underscore hc _ ih =>
    rw [List.cons_append, List.takeWhile_cons]
    split <;> simp [hp]

theorem IsUnsigned.length_takeWhile_le {rest : List Char} (h : IsUnsigned s negative ds)
    (hrest : ∀ c, rest.head? = some c → Text.isAsciiDigit c = false) :
    ((s ++ rest).takeWhile Text.isAsciiDigit).head? = some '0' ∨
      negative = false ∧ ((s ++ rest).takeWhile Text.isAsciiDigit).length ≤ ds.length := by
  rcases h.head_cases with ⟨r, rfl⟩ | ⟨hnegative, hs⟩
  · exact .inl rfl
  · exact .inr ⟨hnegative, hs.length_takeWhile_le rfl hrest⟩

/-- Without a zero in front, no more characters are counted than those that count. -/
theorem IsSigned.length_takeWhile_le {rest : List Char} (h : IsSigned s negative ds)
    (hrest : ∀ c, rest.head? = some c → Text.isAsciiDigit c = false) :
    ((unsigned (s ++ rest)).2.takeWhile Text.isAsciiDigit).head? = some '0' ∨
      (if (unsigned (s ++ rest)).1 then 1 else 0) +
          ((unsigned (s ++ rest)).2.takeWhile Text.isAsciiDigit).length ≤
        (if negative then 1 else 0) + ds.length := by
  cases h with
  | bare h =>
    have hcounted := h.length_takeWhile_le hrest
    obtain ⟨c, r, rfl, hc⟩ := h.exists_cons
    rw [List.cons_append] at hcounted ⊢
    rw [unsigned_of_isAsciiDigit hc]
    refine hcounted.imp_right fun ⟨hnegative, hle⟩ => ?_
    simpa [hnegative] using hle
  | plus _ =>
    rw [List.cons_append, unsigned_of_ne (by decide)]
    exact .inr (Nat.zero_le _)
  | minus h =>
    exact (h.length_takeWhile_le hrest).imp_right fun ⟨_, hle⟩ => Nat.add_le_add_left hle 1

theorem Writes.ofPlain_eq_error {n : Int} {p : Problem} (h : Writes s n)
    (hp : ofPlain s = .error p) : p = .integerText := by
  rcases Integer.ofPlain_eq_error hp with hp | ⟨-, hhead, hlong⟩
  · exact hp
  exfalso
  cases h with
  | @intro before t fraction after ds negative hbefore ht hf hafter hlength =>
    -- A blank in front leaves no digits to count, so the text is not too long.
    cases before with
    | cons b before =>
      have hb := hbefore b List.mem_cons_self
      have hsign : b ≠ '-' := by
        rintro rfl
        cases hb
      rw [List.cons_append, List.cons_append, unsigned_of_ne hsign, List.takeWhile_cons,
        not_isAsciiDigit_of_isSpace hb] at hlong
      simp at hlong
    | nil =>
      -- What follows the digits is no digit, so that they are counted up to there.
      have hrest : ∀ c, (fraction ++ after).head? = some c → Text.isAsciiDigit c = false := by
        intro c hc
        cases hf with
        | none => exact not_isAsciiDigit_of_isSpace (hafter c (List.mem_of_head? hc))
        | zeros =>
          cases hc
          rfl
      rw [List.nil_append, List.append_assoc] at hhead hlong
      rcases ht.length_takeWhile_le hrest with hzero | hle
      · exact hhead hzero
      · exact absurd (Nat.le_trans hle hlength) (Nat.not_le_of_gt hlong)

/-- A text is read as an integer exactly if it writes that integer. -/
theorem ofText_eq_ok_iff {n : Int} : ofText s = .ok n ↔ Writes s n := by
  constructor
  · intro h
    have intro {before t fraction after ds : List Char} {negative : Bool}
        (hs : s = before ++ (t ++ fraction) ++ after)
        (hbefore : ∀ c ∈ before, Text.Integer.isSpace c = true) (ht : IsSigned t negative ds)
        (hf : IsFraction fraction) (hafter : ∀ c ∈ after, Text.Integer.isSpace c = true)
        (hlength : (if negative then 1 else 0) + ds.length ≤ Text.Integer.maxDigits)
        (hn : signed negative ds = n) : Writes s n := by
      rw [hs, ← hn]
      exact .intro hbefore ht hf hafter hlength
    unfold ofText at h
    split at h
    · split at h
      · next m hm =>
        cases h
        obtain ⟨t, ht, hread⟩ := Option.map_eq_some_iff.mp hm
        obtain ⟨negative, ds, rfl, hds, hlength, hn⟩ := ofPlain_eq_ok_iff.mp hread
        obtain ⟨before, t, fraction, after, hs, hbefore, hsigned, hf, hafter⟩ :=
          exists_isSigned_of_cleaned? ht hds
        exact intro hs hbefore hsigned hf hafter hlength hn
      · cases h
    · obtain ⟨negative, ds, hs, hds, hlength, hn⟩ := ofPlain_eq_ok_iff.mp h
      have hparts : s = [] ++ (withMinus negative ds ++ []) ++ [] := by simpa using hs
      exact intro hparts (by simp) (hds.isSigned negative) .none (by simp) hlength hn
  · intro h
    have herror {p : Problem} (hp : ofPlain s = .error p) := h.ofPlain_eq_error hp
    cases h with
    | @intro before t fraction after ds negative hbefore ht hf hafter hlength =>
      have hds : IsPlain ds := ht.isPlain
      have hclean := cleaned?_of_isSigned ht hf hbefore hafter
      have hread : ofPlain (withMinus negative ds) = .ok (signed negative ds) :=
        ofPlain_eq_ok_iff.mpr ⟨_, _, rfl, hds, hlength, rfl⟩
      unfold ofText
      split
      · rw [hclean, Option.map_some, hread]
        rfl
      · next r hnot =>
        -- What can be read as it stands is clean.
        cases hplain : ofPlain (before ++ (t ++ fraction) ++ after) with
        | error p =>
          obtain rfl := herror hplain
          exact absurd hplain hnot
        | ok n =>
          obtain ⟨negative', ds', hs, hds', -, hn⟩ := ofPlain_eq_ok_iff.mp hplain
          have hsame := hds'.cleaned? negative'
          rw [hs] at hclean hplain
          rw [← Option.some.inj (hclean.symm.trans hsame)] at hplain
          exact hplain.symm.trans hread

theorem ofText_eq_error {p : Problem} (h : ofText s = .error p) :
    p = .integerText ∨ p = .integerSize := by
  unfold ofText at h
  split at h
  · split at h <;> cases h
    exact .inl rfl
  · exact (ofPlain_eq_error h).imp_right And.left

end HostSnapshot.Json.Integer
