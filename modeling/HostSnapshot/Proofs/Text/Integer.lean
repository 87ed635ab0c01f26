import HostSnapshot.Proofs.Text.Blank
import HostSnapshot.Text.Integer

namespace HostSnapshot.Text

variable {c : Char} {s : List Char}

theorem not_isBlank_of_isDigit (h : isDigit c = true) : isBlank c = false :=
  not_isBlank_of_class (by decide) h

theorem ne_of_isDigit {d : Char} (h : isDigit c = true) (hd : isDigit d = false) : c ≠ d := by
  rintro rfl
  rw [h] at hd
  cases hd

def isDecimal (c : Char) : Bool := (decimalValue? c).isSome

theorem isDigit_of_isDecimal (h : isDecimal c = true) : isDigit c = true := by
  unfold isDigit
  rw [Bool.or_eq_true]
  exact .inl h

namespace Integer

/-- The number that a text of decimal digits alone writes. -/
def decimal? (s : List Char) : Option Nat :=
  if s.isEmpty || !s.all isDecimal then none else some (value (s.filterMap decimalValue?))

theorem decimal?_eq_some_iff {n : Nat} : decimal? s = some n ↔
    s ≠ [] ∧ s.all isDecimal = true ∧ value (s.filterMap decimalValue?) = n := by
  unfold decimal?
  cases s <;> simp

theorem unsigned_of_isDigit (h : isDigit c = true) (s : List Char) :
    unsigned (c :: s) = (false, c :: s) := by
  have hminus : c ≠ '-' := ne_of_isDigit h (by decide)
  have hplus : c ≠ '+' := ne_of_isDigit h (by decide)
  unfold unsigned
  split <;> simp_all

theorem unsigned_of_all_isDigit (h : s.all isDigit = true) : unsigned s = (false, s) := by
  cases s with
  | nil => rfl
  | cons c s => exact unsigned_of_isDigit (List.all_eq_true.mp h c List.mem_cons_self) s

theorem digits_cons_cons {d : Char} (hd : d ≠ '_') (s : List Char) :
    digits (c :: d :: s) = do return (← decimalValue? c) :: (← digits (d :: s)) := by
  rw [digits]
  · intro h
    cases h
  · rintro s' ⟨⟩
    exact hd rfl

theorem digits_of_all_isDigit (hs : s ≠ []) (h : s.all isDigit = true) :
    digits s = if s.all isDecimal then some (s.filterMap decimalValue?) else none := by
  induction s with
  | nil => exact absurd rfl hs
  | cons c s ih =>
    cases s with
    | nil => cases hc : decimalValue? c <;> simp [digits, isDecimal, hc]
    | cons d s =>
      rw [List.all_cons, Bool.and_eq_true] at h
      have hd : d ≠ '_' := ne_of_isDigit (List.all_eq_true.mp h.2 d List.mem_cons_self) (by decide)
      rw [digits_cons_cons hd, ih (List.cons_ne_nil d s) h.2]
      generalize d :: s = rest
      cases hc : decimalValue? c with
      | none => simp [isDecimal, hc]
      | some n => cases hrest : rest.all isDecimal <;> simp [isDecimal, hc, hrest]

/-- Digits are read as the number that they write, if they are decimal and not too many. -/
theorem ofText_of_all_isDigit (hs : s ≠ []) (h : s.all isDigit = true) :
    ofText (String.ofList s) =
      if s.all isDecimal then
        if maxDigits < s.length then .error (.tooLong s.length)
        else .ok (value (s.filterMap decimalValue?))
      else .error (.literal (String.ofList s)) := by
  have hspace : ∀ c ∈ s, isSpace c = false := by
    intro c hc
    rw [isSpace, not_isBlank_of_isDigit (List.all_eq_true.mp h c hc), Bool.false_and]
  unfold ofText
  rw [String.toList_ofList, stripEnds_of_forall hspace, unsigned_of_all_isDigit h]
  simp only [digits_of_all_isDigit hs h]
  by_cases hdecimal : s.all isDecimal = true
  · have hlength : (s.filterMap decimalValue?).length = s.length :=
      List.filterMap_length_eq_length.mpr (List.all_eq_true.mp hdecimal)
    simp only [if_pos hdecimal, hlength]
    rfl
  · simp only [if_neg hdecimal]

theorem all_isDigit_of_decimal? {n : Nat} (h : decimal? s = some n) :
    s ≠ [] ∧ s.all isDigit = true := by
  obtain ⟨hs, hdecimal, -⟩ := decimal?_eq_some_iff.mp h
  rw [List.all_eq_true] at hdecimal ⊢
  exact ⟨hs, fun c hc => isDigit_of_isDecimal (hdecimal c hc)⟩

def IsNumeral (s : List Char) : Prop := (decimal? s).isSome ∧ s.length ≤ maxDigits

theorem ofText_of_decimal? {n : Nat} (h : decimal? s = some n) (hlength : s.length ≤ maxDigits) :
    ofText (String.ofList s) = .ok n := by
  obtain ⟨hs, hdigits⟩ := all_isDigit_of_decimal? h
  obtain ⟨-, hdecimal, rfl⟩ := decimal?_eq_some_iff.mp h
  rw [ofText_of_all_isDigit hs hdigits, if_pos hdecimal, if_neg (Nat.not_lt.mpr hlength)]

theorem ofText_of_not_isNumeral (hs : s ≠ []) (h : s.all isDigit = true)
    (hnumeral : ¬ IsNumeral s) : ∃ cause, ofText (String.ofList s) = .error cause := by
  rw [ofText_of_all_isDigit hs h]
  split
  · next hdecimal =>
    split
    · exact ⟨_, rfl⟩
    · next hlength =>
      have hsome := decimal?_eq_some_iff.mpr ⟨hs, hdecimal, rfl⟩
      exact absurd ⟨by rw [hsome]; rfl, Nat.not_lt.mp hlength⟩ hnumeral
  · exact ⟨_, rfl⟩

end Integer

end HostSnapshot.Text
