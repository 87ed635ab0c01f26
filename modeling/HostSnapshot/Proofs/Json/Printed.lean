import HostSnapshot.Proofs.Json.Leaf
import HostSnapshot.Text.Basic

namespace HostSnapshot

namespace Text

variable {c : Char} {s t : List Char}

def isShown (c : Char) : Bool := 0x20 ≤ c.toNat && c.toNat ≤ 0x7e

theorem isLineEnd_of_isShown (h : isShown c = true) : isLineEnd c = false := by
  simp only [isShown, Bool.and_eq_true, decide_eq_true_eq] at h
  simp only [isLineEnd, Bool.or_eq_false_iff, Bool.and_eq_false_iff, decide_eq_false_iff_not,
    beq_eq_false_iff_ne]
  omega

theorem isShown_of_isAsciiDigit (h : isAsciiDigit c = true) : isShown c = true := by
  simp only [isAsciiDigit, Bool.and_eq_true, decide_eq_true_eq, Char.le_def,
    UInt32.le_iff_toNat_le] at h
  simp only [isShown, Bool.and_eq_true, decide_eq_true_eq]
  exact ⟨Nat.le_trans (by decide) h.1, Nat.le_trans h.2 (by decide)⟩

theorem isShown_hexDigit {n : Nat} (h : n < 16) : isShown (hexDigit n) = true := by
  revert n
  decide

def AreShown (s : List Char) : Prop := ∀ c ∈ s, isShown c = true

instance (s : List Char) : Decidable (AreShown s) :=
  decidable_of_iff (s.all isShown = true) List.all_eq_true

@[simp] theorem areShown_nil : AreShown [] := fun _ h => nomatch h

@[simp] theorem areShown_cons : AreShown (c :: s) ↔ isShown c = true ∧ AreShown s :=
  List.forall_mem_cons

@[simp] theorem areShown_append : AreShown (s ++ t) ↔ AreShown s ∧ AreShown t :=
  List.forall_mem_append

theorem AreShown.sublist (ht : AreShown t) (h : s.Sublist t) : AreShown s :=
  fun c hc => ht c (h.mem hc)

theorem areShown_replicate (h : isShown c = true) (n : Nat) : AreShown (List.replicate n c) := by
  intro d hd
  rwa [List.eq_of_mem_replicate hd]

end Text

open Text

namespace Number

theorem areShown_decimal (n : Nat) : AreShown (decimal n) :=
  fun _ hc => isShown_of_isAsciiDigit (Json.isAsciiDigit_of_mem_decimal hc)

theorem areShown_exponentText (e : Int) : AreShown (exponentText e) := by
  have hsign : isShown (if e < 0 then '-' else '+') = true := by
    split <;> rfl
  have hdigits := areShown_decimal e.natAbs
  unfold exponentText
  rw [areShown_cons]
  refine ⟨hsign, ?_⟩
  split
  · rw [areShown_cons]
    exact ⟨rfl, hdigits⟩
  · exact hdigits

theorem Layout.areShown_write {layout : Layout} (hwhole : AreShown layout.whole) (d : Digits) :
    AreShown (layout.write d) := by
  have hzero : isShown '0' = true := rfl
  have hpoint : isShown '.' = true := rfl
  have hmark : isShown 'e' = true := rfl
  have hdigits := areShown_decimal d.coefficient
  have htake (n : Nat) : AreShown ((decimal d.coefficient).take n) :=
    hdigits.sublist (List.take_sublist n _)
  have hdrop (n : Nat) : AreShown ((decimal d.coefficient).drop n) :=
    hdigits.sublist (List.drop_sublist n _)
  have hzeros (n : Nat) := areShown_replicate hzero n
  -- The cases are zero, the three places of the point, and an exponent with or without a fraction.
  unfold write
  dsimp only
  split_ifs with hnone hpositional hsmall hlarge htail
  · simp [hzero, hwhole]
  · simp [hzero, hpoint, hzeros, hdigits]
  · simp [hdigits, hzeros, hwhole]
  · simp [htake, hpoint, hdrop]
  · simp [htake, hmark, areShown_exponentText]
  · have htail := hdrop 1
    rw [List.drop_one] at htail
    simp [htake, hpoint, htail, hmark, areShown_exponentText]

end Number

namespace Json

theorem areShown_intChars (n : Int) : AreShown (intChars n) := by
  have hminus : isShown '-' = true := rfl
  unfold intChars
  split
  · simp [hminus, Number.areShown_decimal]
  · exact Number.areShown_decimal _

theorem areShown_floatChars (x : Float) : AreShown (floatChars x) := by
  have hsign (b : Bool) : AreShown (if b then ['-'] else []) := by
    cases b <;> decide
  unfold floatChars
  split
  · next s hs =>
    unfold Number.Layout.text? at hs
    obtain ⟨p, -, rfl⟩ := Option.map_eq_some_iff.mp hs
    rw [areShown_append]
    exact ⟨hsign _, Number.Layout.areShown_write (by decide) _⟩
  · split
    · decide
    · rw [areShown_append]
      refine ⟨?_, by decide⟩
      split <;> decide

theorem areShown_unicodeEscape (n : Nat) : AreShown (unicodeEscape n) := by
  have hdigit (m : Nat) : isShown (Text.hexDigit (m % 16)) = true :=
    isShown_hexDigit (Nat.mod_lt m (by decide))
  unfold unicodeEscape
  rw [hex_four]
  simp only [areShown_cons, hdigit, areShown_nil, and_true]
  exact ⟨rfl, rfl⟩

theorem areShown_escape (c : Char) : AreShown (escape c) := by
  unfold escape
  split_ifs with hquote hback hn hr ht hb hf hplain hshort
  · decide
  · decide
  · decide
  · decide
  · decide
  · decide
  · decide
  · simpa [isShown] using hplain
  · exact areShown_unicodeEscape _
  · rw [areShown_append]
    exact ⟨areShown_unicodeEscape _, areShown_unicodeEscape _⟩

theorem areShown_quoteChars (s : List Char) : AreShown (quoteChars s) := by
  have hmark : isShown '"' = true := rfl
  have htext : AreShown (s.flatMap escape) := by
    intro c hc
    obtain ⟨d, -, hc⟩ := List.mem_flatMap.mp hc
    exact areShown_escape d c hc
  simp [quoteChars, hmark, htext]

theorem areShown_leafChars (v : Json) : AreShown (leafChars v) := by
  cases v with
  | null => decide
  | bool b => cases b <;> decide
  | int n => exact areShown_intChars n
  | float x => exact areShown_floatChars x
  | str s => exact areShown_quoteChars _
  | arr vs => exact (by decide : AreShown ['[', ']'])
  | obj ms => exact (by decide : AreShown ['{', '}'])

/-- A style that keeps a value on its line. -/
structure Style.IsOneLine (style : Style) : Prop where
  comma : AreShown style.comma
  colon : AreShown style.colon
  indent : style.indent = none

theorem Style.spaced_isOneLine : Style.spaced.IsOneLine := ⟨by decide, by decide, rfl⟩

theorem Style.IsOneLine.newline {style : Style} (h : style.IsOneLine) (level : Nat) :
    style.newline level = [] := by
  rw [Style.newline, h.indent]

mutual

theorem areShown_chars {style : Style} (h : style.IsOneLine) :
    ∀ (v : Json) (level : Nat), AreShown (chars style level v)
  | .arr (v :: vs), level => by
    have hfirst := areShown_chars h v (level + 1)
    have hrest := areShown_itemChars h vs (level + 1)
    have hopen : isShown '[' = true := rfl
    have hclose : isShown ']' = true := rfl
    simp [chars, h.newline, hfirst, hrest, hopen, hclose]
  | .obj ((k, v) :: ms), level => by
    have hfirst := areShown_chars h v (level + 1)
    have hrest := areShown_memberChars h ms (level + 1)
    have hopen : isShown '{' = true := rfl
    have hclose : isShown '}' = true := rfl
    simp [chars, h.newline, h.colon, areShown_quoteChars, hfirst, hrest, hopen, hclose]
  | .arr [], _ => areShown_leafChars (.arr [])
  | .obj [], _ => areShown_leafChars (.obj [])
  | .null, _ => areShown_leafChars .null
  | .bool b, _ => by cases b <;> exact areShown_leafChars (.bool _)
  | .int n, _ => areShown_leafChars (.int n)
  | .float x, _ => areShown_leafChars (.float x)
  | .str s, _ => areShown_leafChars (.str s)

theorem areShown_itemChars {style : Style} (h : style.IsOneLine) :
    ∀ (vs : List Json) (level : Nat), AreShown (itemChars style level vs)
  | [], _ => areShown_nil
  | v :: vs, level => by
    have hfirst := areShown_chars h v level
    have hrest := areShown_itemChars h vs level
    simp [itemChars, h.newline, h.comma, hfirst, hrest]

theorem areShown_memberChars {style : Style} (h : style.IsOneLine) :
    ∀ (ms : List (String × Json)) (level : Nat), AreShown (memberChars style level ms)
  | [], _ => areShown_nil
  | (k, v) :: ms, level => by
    have hfirst := areShown_chars h v level
    have hrest := areShown_memberChars h ms level
    simp [memberChars, h.newline, h.comma, h.colon, areShown_quoteChars, hfirst, hrest]

end

end Json

end HostSnapshot
