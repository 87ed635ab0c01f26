import HostSnapshot.Proofs.Text.Integer

namespace HostSnapshot.Text.Integer

/-- The values of some digits, where an underscore may stand between two of them. -/
inductive AreDigits : List Char → List Nat → Prop
  | one {c : Char} {d : Nat} (h : decimalValue? c = some d) : AreDigits [c] [d]
  | cons {c : Char} {d : Nat} {s : List Char} {ds : List Nat} (h : decimalValue? c = some d)
      (hs : AreDigits s ds) : AreDigits (c :: s) (d :: ds)
  | underscore {c : Char} {d : Nat} {s : List Char} {ds : List Nat}
      (h : decimalValue? c = some d) (hs : AreDigits s ds) : AreDigits (c :: '_' :: s) (d :: ds)

def IsUnsigned (s : List Char) (n : Nat) : Prop :=
  ∃ ds, AreDigits s ds ∧ ds.length ≤ maxDigits ∧ value ds = n

inductive IsSigned : List Char → Int → Prop
  | bare {s : List Char} {n : Nat} (h : IsUnsigned s n) : IsSigned s n
  | plus {s : List Char} {n : Nat} (h : IsUnsigned s n) : IsSigned ('+' :: s) n
  | minus {s : List Char} {n : Nat} (h : IsUnsigned s n) : IsSigned ('-' :: s) (-n)

/-- A text that writes a number, with blanks around it or without. -/
def Writes (text : String) (n : Int) : Prop :=
  ∃ before s after, text.toList = before ++ s ++ after ∧ (∀ c ∈ before, isSpace c = true) ∧
    (∀ c ∈ after, isSpace c = true) ∧ IsSigned s n

variable {c : Char} {s : List Char} {ds : List Nat}

theorem isDigit_of_decimalValue? {d : Nat} (h : decimalValue? c = some d) : isDigit c = true :=
  isDigit_of_isDecimal (by rw [isDecimal, h]; rfl)

theorem not_isSpace_of_decimalValue? {d : Nat} (h : decimalValue? c = some d) :
    isSpace c = false := by
  rw [isSpace, not_isBlank_of_isDigit (isDigit_of_decimalValue? h), Bool.false_and]

theorem AreDigits.exists_cons (h : AreDigits s ds) :
    ∃ c t d, s = c :: t ∧ decimalValue? c = some d := by
  cases h with
  | one h => exact ⟨_, _, _, rfl, h⟩
  | cons h _ => exact ⟨_, _, _, rfl, h⟩
  | underscore h _ => exact ⟨_, _, _, rfl, h⟩

theorem AreDigits.getLast? (h : AreDigits s ds) :
    ∃ c d, s.getLast? = some c ∧ decimalValue? c = some d := by
  induction h with
  | one h => exact ⟨_, _, rfl, h⟩
  | cons _ hs ih =>
    obtain ⟨c, t, _, rfl, -⟩ := hs.exists_cons
    rwa [List.getLast?_cons_cons]
  | underscore _ hs ih =>
    obtain ⟨c, t, _, rfl, -⟩ := hs.exists_cons
    rwa [List.getLast?_cons_cons, List.getLast?_cons_cons]

theorem AreDigits.ne_nil (h : AreDigits s ds) : s ≠ [] := by
  obtain ⟨c, t, _, rfl, -⟩ := h.exists_cons
  exact List.cons_ne_nil c t

theorem AreDigits.endsAvoid (h : AreDigits s ds) : EndsAvoid isSpace s := by
  obtain ⟨c, t, d, hs, hd⟩ := h.exists_cons
  obtain ⟨c', d', hlast, hd'⟩ := h.getLast?
  rintro x (hx | hx)
  · rw [hs, List.head?_cons, Option.some.injEq] at hx
    exact hx ▸ not_isSpace_of_decimalValue? hd
  · rw [hlast, Option.some.injEq] at hx
    exact hx ▸ not_isSpace_of_decimalValue? hd'

/-- The digits of a text are read, and nothing else is. -/
theorem digits_eq_some_iff : digits s = some ds ↔ AreDigits s ds := by
  constructor
  · intro h
    -- The cases are those of reading: the end, the last digit, an underscore, a further digit.
    fun_induction digits s generalizing ds with
    | case1 => cases h
    | case2 c =>
      obtain ⟨d, hd, rfl⟩ := Option.map_eq_some_iff.mp h
      exact .one hd
    | case3 c s ih =>
      obtain ⟨d, hd, h⟩ := Option.bind_eq_some_iff.mp h
      obtain ⟨ds, hds, h⟩ := Option.bind_eq_some_iff.mp h
      cases h
      exact .underscore hd (ih hds)
    | case4 c s _ _ ih =>
      obtain ⟨d, hd, h⟩ := Option.bind_eq_some_iff.mp h
      obtain ⟨ds, hds, h⟩ := Option.bind_eq_some_iff.mp h
      cases h
      exact .cons hd (ih hds)
  · intro h
    induction h with
    | one h => simp [digits, h]
    | cons h hs ih =>
      obtain ⟨d, t, _, rfl, hd⟩ := hs.exists_cons
      have hplain : d ≠ '_' := ne_of_isDigit (isDigit_of_decimalValue? hd) (by decide)
      rw [digits_cons_cons hplain, h, ih]
      rfl
    | underscore h _ ih =>
      rw [digits, h, ih]
      rfl

theorem unsigned_of_areDigits (h : AreDigits s ds) : unsigned s = (false, s) := by
  obtain ⟨c, t, d, rfl, hd⟩ := h.exists_cons
  exact unsigned_of_isDigit (isDigit_of_decimalValue? hd) t

theorem isSigned_iff {n : Int} : IsSigned s n ↔
    ∃ m, IsUnsigned (unsigned s).2 m ∧ n = if (unsigned s).1 then -(m : Int) else m := by
  constructor
  · rintro (⟨ds, hds, hlength, rfl⟩ | h | h)
    · rw [unsigned_of_areDigits hds]
      exact ⟨_, ⟨ds, hds, hlength, rfl⟩, rfl⟩
    · exact ⟨_, h, rfl⟩
    · exact ⟨_, h, rfl⟩
  · rintro ⟨m, h, rfl⟩
    unfold unsigned at h ⊢
    split at h
    · exact .minus h
    · exact .plus h
    · exact .bare h

theorem IsSigned.endsAvoid {n : Int} (h : IsSigned s n) : EndsAvoid isSpace s := by
  rcases h with ⟨ds, hds, -⟩ | ⟨ds, hds, -⟩ | ⟨ds, hds, -⟩
  · exact hds.endsAvoid
  · exact hds.endsAvoid.cons hds.ne_nil rfl
  · exact hds.endsAvoid.cons hds.ne_nil rfl

theorem writes_iff {text : String} {n : Int} :
    Writes text n ↔ IsSigned (stripEnds isSpace text.toList) n := by
  constructor
  · rintro ⟨before, s, after, htext, hbefore, hafter, h⟩
    rw [htext, stripEnds_append hbefore hafter, h.endsAvoid.stripEnds]
    exact h
  · intro h
    obtain ⟨before, after, htext, hbefore, hafter⟩ :=
      exists_eq_append_stripEnds isSpace text.toList
    exact ⟨before, _, after, htext, hbefore, hafter, h⟩

/-- A text is read as a number exactly if it writes that number. -/
theorem ofText_eq_ok_iff {text : String} {n : Int} : ofText text = .ok n ↔ Writes text n := by
  rw [writes_iff, isSigned_iff, ofText]
  rcases unsigned (stripEnds isSpace text.toList) with ⟨negative, s⟩
  dsimp only
  constructor
  · intro h
    split at h
    · cases h
    · next ds hds =>
      split at h
      · cases h
      · next hlength =>
        rw [Except.ok.injEq] at h
        exact ⟨_, ⟨ds, digits_eq_some_iff.mp hds, Nat.not_lt.mp hlength, rfl⟩, h.symm⟩
  · rintro ⟨m, ⟨ds, hds, hlength, rfl⟩, rfl⟩
    rw [digits_eq_some_iff.mpr hds]
    dsimp only
    rw [if_neg (Nat.not_lt.mpr hlength)]

/-- A text writes one number at most. -/
theorem Writes.unique {text : String} {m n : Int} (hm : Writes text m) (hn : Writes text n) :
    m = n := by
  rw [← ofText_eq_ok_iff] at hm hn
  exact Except.ok.inj (hm.symm.trans hn)

end HostSnapshot.Text.Integer
