import HostSnapshot.Mounts

namespace HostSnapshot.Mounts

/-- The least code point that three octal digits do not write. -/
def octalBound : Nat := 0x200

variable {special : Char → Bool} {c : Char}

theorem unescape_cons (h : c ≠ '\\') (s : List Char) :
    unescape (c :: s) = c :: unescape s := by
  rw [unescape]
  intro _ _ _ _ hc
  exact absurd hc h

theorem unescape_of_not_mem {s : List Char} (h : '\\' ∉ s) : unescape s = s := by
  induction s with
  | nil => rfl
  | cons c s ih =>
    rw [List.mem_cons, not_or] at h
    rw [unescape_cons (Ne.symm h.1), ih h.2]

theorem octalValue?_octalDigit (n : Nat) : octalValue? (octalDigit n) = some (n % 8) := by
  have h : ∀ m < 8, octalValue? (Char.ofNat (0x30 + m)) = some m := by decide
  exact h _ (Nat.mod_lt n (by decide))

theorem octalChar?_octalDigits (h : c.toNat < octalBound) :
    octalChar? (octalDigit (c.toNat / 64)) (octalDigit (c.toNat / 8)) (octalDigit c.toNat) =
      some c := by
  have hcode : c.toNat / 64 % 8 * 64 + c.toNat / 8 % 8 * 8 + c.toNat % 8 = c.toNat := by
    rw [octalBound] at h
    omega
  simp only [octalChar?, octalValue?_octalDigit, bind, Option.bind, pure]
  rw [hcode, Char.ofNat_toNat]

theorem escape_cons (special : Char → Bool) (c : Char) (s : List Char) :
    escape special (c :: s) = escape special [c] ++ escape special s := by
  simp [escape]

theorem escape_of_special (h : special c = true) : escape special [c] =
    ['\\', octalDigit (c.toNat / 64), octalDigit (c.toNat / 8), octalDigit c.toNat] := by
  simp [escape, h]

theorem escape_of_not_special (h : special c = false) : escape special [c] = [c] := by
  simp [escape, h]

/-- An escape is read whole: decoding goes on behind it. -/
theorem unescape_escape_singleton_append (hbackslash : special '\\' = true)
    (hspecial : special c = true → c.toNat < octalBound) (s : List Char) :
    unescape (escape special [c] ++ s) = c :: unescape s := by
  by_cases hc : special c = true
  · rw [escape_of_special hc]
    simp only [List.cons_append, List.nil_append]
    rw [unescape, octalChar?_octalDigits (hspecial hc)]
  · have hplain : c ≠ '\\' := by
      rintro rfl
      exact hc hbackslash
    rw [escape_of_not_special (Bool.not_eq_true _ ▸ hc), List.singleton_append,
      unescape_cons hplain]

/-- Decoding undoes escapes and leaves what follows them as it is decoded by itself. -/
theorem unescape_escape_append (hbackslash : special '\\' = true)
    (hspecial : ∀ c, special c = true → c.toNat < octalBound) (s rest : List Char) :
    unescape (escape special s ++ rest) = s ++ unescape rest := by
  induction s with
  | nil => rfl
  | cons c s ih =>
    rw [escape_cons, List.append_assoc,
      unescape_escape_singleton_append hbackslash (hspecial c), ih, List.cons_append]

theorem unescape_escape_of_special (hbackslash : special '\\' = true)
    (hspecial : ∀ c, special c = true → c.toNat < octalBound) (s : List Char) :
    unescape (escape special s) = s := by
  have h := unescape_escape_append hbackslash hspecial s []
  rwa [List.append_nil, unescape, List.append_nil] at h

theorem isSpecial_iff :
    isSpecial c = true ↔ c = ' ' ∨ c = '\t' ∨ c = '\n' ∨ c = '\\' := by
  simp [isSpecial, or_assoc]

theorem toNat_lt_of_isSpecial (h : isSpecial c = true) : c.toNat < octalBound := by
  rcases isSpecial_iff.mp h with rfl | rfl | rfl | rfl <;> decide

theorem unescape_escape (s : List Char) : unescape (escape isSpecial s) = s :=
  unescape_escape_of_special rfl (fun _ => toNat_lt_of_isSpecial) s

/-- Whatever characters are escaped, as long as three octal digits write them and the backslash is
one of them, a text is decoded as it was. What stands behind it is decoded as if it stood alone, so
that an escaped backslash does not begin another escape with the digits that follow. -/
theorem unescape_escape_once (hbackslash : special '\\' = true)
    (hspecial : ∀ c, special c = true → c.toNat < octalBound) :
    (∀ s, unescape (escape special s) = s) ∧
    (∀ s rest, unescape (escape special s ++ rest) = s ++ unescape rest) ∧
    ∀ digits, '\\' ∉ digits → unescape (escape special ['\\'] ++ digits) = '\\' :: digits := by
  have happend := unescape_escape_append hbackslash hspecial
  refine ⟨unescape_escape_of_special hbackslash hspecial, happend, ?_⟩
  intro digits hdigits
  rw [happend, unescape_of_not_mem hdigits, List.singleton_append]

/-- The characters that are escaped may be all that can be, or those that the kernel escapes. -/
theorem unescape_escape_everything :
    unescape (escape (·.toNat < octalBound) "\\040 \\134ÿ€".toList) = "\\040 \\134ÿ€".toList ∧
    escape isSpecial "\\040 ".toList = "\\134040\\040".toList ∧
    unescape (escape isSpecial ['\\'] ++ "040".toList) = "\\040".toList := by
  refine ⟨?_, by decide, ?_⟩
  · exact (unescape_escape_once (by decide) fun _ => of_decide_eq_true).1 _
  · exact (unescape_escape_once rfl fun _ => toNat_lt_of_isSpecial).2.2 _ (by decide)

end HostSnapshot.Mounts
