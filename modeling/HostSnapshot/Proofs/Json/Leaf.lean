import HostSnapshot.Json.Parser
import HostSnapshot.Json.Printer
import HostSnapshot.Proofs.Json.Exact
import Mathlib.Tactic.SplitIfs

namespace HostSnapshot.Json

theorem hexValue?_hexDigit {n : Nat} (h : n < 16) : hexValue? (Text.hexDigit n) = some n := by
  revert n; decide

theorem hex_four (n : Nat) : Text.hex 4 n =
    [Text.hexDigit (n / 4096 % 16), Text.hexDigit (n / 256 % 16), Text.hexDigit (n / 16 % 16),
      Text.hexDigit (n % 16)] := by
  simp only [Text.hex, Nat.div_div_eq_div_mul, List.nil_append, List.cons_append]

theorem hex4?_hexDigit {n : Nat} (h : n < 0x10000) :
    hex4? (Text.hexDigit (n / 4096 % 16)) (Text.hexDigit (n / 256 % 16))
      (Text.hexDigit (n / 16 % 16)) (Text.hexDigit (n % 16)) = some n := by
  have hn : ((n / 4096 % 16 * 16 + n / 256 % 16) * 16 + n / 16 % 16) * 16 + n % 16 = n := by omega
  simp [hex4?, hexValue?_hexDigit, Nat.mod_lt, hn]

theorem readEscape?_unicodeEscape {n : Nat} (h : n < 0x10000)
    (hh : isHighSurrogate n = false) (hl : isLowSurrogate n = false) (s : List Char) :
    readEscape? ('u' :: Text.hex 4 n ++ s) = some (Char.ofNat n, s) := by
  simp [hex_four, readEscape?, hex4?_hexDigit h, hh, hl]

theorem readEscape?_surrogates {m n : Nat} (hm : m < 0x400) (hn : n < 0x400) (s : List Char) :
    readEscape? ('u' :: Text.hex 4 (0xd800 + m) ++ (unicodeEscape (0xdc00 + n) ++ s)) =
      some (Char.ofNat (0x10000 + m * 0x400 + n), s) := by
  have hhigh : isHighSurrogate (0xd800 + m) = true := by simp [isHighSurrogate]; omega
  have hlow : isLowSurrogate (0xdc00 + n) = true := by simp [isLowSurrogate]; omega
  have hj : joinSurrogates (0xd800 + m) (0xdc00 + n) = Char.ofNat (0x10000 + m * 0x400 + n) := by
    simp [joinSurrogates]
  simp [unicodeEscape, hex_four, readEscape?, hex4?_hexDigit (show 0xd800 + m < 0x10000 by omega),
    hex4?_hexDigit (show 0xdc00 + n < 0x10000 by omega), hhigh, hlow, hj]

theorem readString?_backslash {s r : List Char} {c : Char} (h : readEscape? s = some (c, r)) :
    readString? ('\\' :: s) = (readString? r).map fun (cs, rest) => (c :: cs, rest) := by
  rw [readString?]
  simp only [Char.reduceEq, if_false, if_true]
  split
  · simp_all
  · simp_all

theorem toNat_not_surrogate (c : Char) :
    isHighSurrogate c.toNat = false ∧ isLowSurrogate c.toNat = false := by
  have hv : c.toNat < 0xd800 ∨ 0xdfff < c.toNat ∧ c.toNat < 0x110000 := c.valid
  constructor
  · simp [isHighSurrogate]; omega
  · simp [isLowSurrogate]; omega

theorem readEscape?_simple {c d : Char} (hc : c ≠ 'u') (h : simpleEscape? c = some d)
    (s : List Char) : readEscape? (c :: s) = some (d, s) := by
  rw [readEscape?]
  · simp [h]
  · intro _ _ _ _ _ hu
    simp_all

/-- A written character is read as that character, whatever follows. -/
theorem readString?_escape (c : Char) (s : List Char) :
    readString? (escape c ++ s) = (readString? s).map fun (cs, rest) => (c :: cs, rest) := by
  have simple {a : Char} (ha : a ≠ 'u') (h : simpleEscape? a = some c) :
      readString? ('\\' :: a :: s) = (readString? s).map fun (cs, rest) => (c :: cs, rest) :=
    readString?_backslash (readEscape?_simple ha h s)
  unfold escape
  -- Seven escapes of one character, the character itself, and one or two unicode escapes.
  split_ifs with hquote hback hn hr ht hb hf hplain hshort
  · exact simple (by decide) (by subst c; decide)
  · exact simple (by decide) (by subst c; decide)
  · exact simple (by decide) (by subst c; decide)
  · exact simple (by decide) (by subst c; decide)
  · exact simple (by decide) (by subst c; decide)
  · exact simple (by decide) (by subst c; decide)
  · exact simple (by decide) (by subst c; decide)
  · rw [List.singleton_append, readString?, if_neg hquote, if_neg hback, if_neg (by omega)]
  · have h := readEscape?_unicodeEscape hshort (toNat_not_surrogate c).1 (toNat_not_surrogate c).2 s
    rw [Char.ofNat_toNat] at h
    exact readString?_backslash h
  · have hv : c.toNat < 0x110000 := by
      have hv : c.toNat < 0xd800 ∨ 0xdfff < c.toNat ∧ c.toNat < 0x110000 := c.valid
      omega
    have h := readEscape?_surrogates (m := (c.toNat - 0x10000) / 0x400)
      (n := (c.toNat - 0x10000) % 0x400) (by omega) (by omega) s
    have hc : 0x10000 + (c.toNat - 0x10000) / 0x400 * 0x400 + (c.toNat - 0x10000) % 0x400 =
        c.toNat := by omega
    rw [hc, Char.ofNat_toNat] at h
    rw [List.append_assoc]
    exact readString?_backslash h

theorem readString?_quoteChars (s rest : List Char) :
    readString? (s.flatMap escape ++ '"' :: rest) = some (s, rest) := by
  induction s with
  | nil => simp [readString?]
  | cons c s ih =>
    rw [List.flatMap_cons, List.append_assoc, readString?_escape, ih]
    rfl

/-- Whether a text starts with nothing that could go on with a written value. -/
def endsValue : List Char → Bool
  | [] => true
  | c :: _ => isSpace c || c == ',' || c == ']' || c == '}'

theorem endsValue_cons {c : Char} {s : List Char} (h : endsValue (c :: s) = true) :
    Text.isAsciiDigit c = false ∧ c ≠ '.' ∧ c ≠ 'e' ∧ c ≠ 'E' := by
  simp only [endsValue, isSpace, Bool.or_eq_true, beq_iff_eq] at h
  rcases h with (((((rfl | rfl) | rfl) | rfl) | rfl) | rfl) | rfl <;> decide

theorem isAsciiDigit_of_mem_decimal {n : Nat} {c : Char} (h : c ∈ Number.decimal n) :
    Text.isAsciiDigit c = true := by
  have hd : c.isDigit = true := Nat.isDigit_of_mem_toDigits (by decide) (by decide) h
  exact hd

theorem decimal_head_zero {n : Nat} (h : (Number.decimal n).head? = some '0') : n = 0 := by
  induction n using Nat.strongRecOn with
  | ind n ih =>
    rw [Number.decimal, Nat.toDigits_eq_if (by decide)] at h
    split at h
    · simpa using h
    · have hz := ih (n / 10) (by omega) (by
        rwa [List.head?_append, Option.or_of_isSome (by simp)] at h)
      omega

theorem natOfDigits_decimal (n : Nat) : Number.Decimal.natOfDigits (Number.decimal n) = n :=
  Nat.ofDigitChars_ten_toDigits

theorem takeWhile_decimal (n : Nat) {rest : List Char} (h : endsValue rest = true) :
    (Number.decimal n ++ rest).takeWhile Text.isAsciiDigit = Number.decimal n ∧
      (Number.decimal n ++ rest).dropWhile Text.isAsciiDigit = rest := by
  rw [List.takeWhile_append_of_pos fun c hc => isAsciiDigit_of_mem_decimal hc,
    List.dropWhile_append_of_pos fun c hc => isAsciiDigit_of_mem_decimal hc]
  cases rest with
  | nil => simp
  | cons c s => simp [(endsValue_cons h).1]

theorem readWhole?_decimal (n : Nat) {rest : List Char} (h : endsValue rest = true) :
    readWhole? (Number.decimal n ++ rest) = some (Number.decimal n, rest) := by
  have hne : Number.decimal n ≠ [] := Nat.toDigits_ne_nil
  rw [readWhole?, (takeWhile_decimal n h).1, (takeWhile_decimal n h).2]
  split
  · contradiction
  · simp_all
  · next hnot hz =>
    have h0 : n = 0 := decimal_head_zero (by rw [hz]; rfl)
    subst h0
    exact absurd (List.cons.inj hz).2.symm hnot
  · rfl

theorem readNumber?_decimal {dialect : Dialect} (negative : Bool) {n : Nat}
    (hn : dialect.admits negative false (Number.decimal n) = true) {rest : List Char}
    (h : endsValue rest = true) :
    readNumber? dialect negative (Number.decimal n ++ rest) =
      some (.int (if negative then -n else n), rest) := by
  have hfraction : readFraction? rest = some ([], rest) := by
    cases rest with
    | nil => rfl
    | cons c s => simp [readFraction?, (endsValue_cons h).2.1]
  have hexponent : readExponent? rest = some ([], rest) := by
    cases rest with
    | nil => rfl
    | cons c s => simp [readExponent?, (endsValue_cons h).2.2]
  simp [readNumber?, readWhole?_decimal n h, hfraction, hexponent, hn, natOfDigits_decimal]

theorem readLeaf?_quoteChars (dialect : Dialect) (s : String) (rest : List Char) :
    readLeaf? dialect (quoteChars s.toList ++ rest) = some (.str s, rest) := by
  have h := readString?_quoteChars s.toList rest
  simp [readLeaf?, quoteChars, h]

theorem readLeaf?_intChars {dialect : Dialect} {n : Int} (hn : dialect.takes (.int n) = true)
    {rest : List Char} (h : endsValue rest = true) :
    readLeaf? dialect (intChars n ++ rest) = some (.int n, rest) := by
  rw [Dialect.takes] at hn
  unfold intChars
  split
  · next hneg =>
    rw [decide_eq_true hneg] at hn
    rw [List.cons_append, readLeaf?, readNumber?_decimal true hn h, if_pos rfl,
      show -(n.natAbs : Int) = n by omega]
    rfl
  · next hpos =>
    rw [decide_eq_false hpos] at hn
    -- A number does not start like one of the words before it.
    have hhead {c : Char} (hc : Text.isAsciiDigit c = false) (s : List Char) :
        Number.decimal n.natAbs ++ rest ≠ c :: s := by
      intro he
      cases hds : Number.decimal n.natAbs with
      | nil => exact Nat.toDigits_ne_nil hds
      | cons d ds =>
        have hd := isAsciiDigit_of_mem_decimal (hds ▸ List.mem_cons_self : d ∈ _)
        simp_all
    rw [readLeaf?.eq_3 _ _ (hhead (by decide)) (hhead (by decide)),
      readNumber?_decimal false hn h, if_neg (by decide),
      show (n.natAbs : Int) = n by omega]
    rfl

def isNumber : Json → Bool
  | int _ => true
  | float _ => true
  | _ => false

theorem isSpace_of_not_isBlank {c : Char} (h : Text.isBlank c = false) : isSpace c = false := by
  rw [← Bool.not_eq_true]
  intro hspace
  simp only [isSpace, Bool.or_eq_true, beq_iff_eq] at hspace
  rcases hspace with ((rfl | rfl) | rfl) | rfl
  all_goals cases h

theorem after?_eq_some_iff {word cs r : List Char} :
    after? word cs = some r ↔ cs = word ++ r := by
  induction word generalizing cs with
  | nil => simp [after?]
  | cons d word ih =>
    cases cs with
    | nil => simp [after?]
    | cons c cs =>
      rw [after?, List.cons_append, List.cons.injEq]
      by_cases hd : d = c
      · rw [if_pos hd, ih, hd]
        simp
      · rw [if_neg hd]
        simp [Ne.symm hd]

theorem readWord?_number {cs r : List Char} {v : Json} (hv : v.isNumber = true)
    (h : readWord? cs = some (v, r)) :
    cs = "NaN".toList ++ r ∨ cs = "Infinity".toList ++ r ∨ cs = "-Infinity".toList ++ r := by
  simp only [readWord?, Option.orElse_eq_orElse, Option.orElse_eq_or, Option.or_eq_some_iff,
    Option.map_eq_some_iff, Prod.mk.injEq, after?_eq_some_iff] at h
  -- The words before them are no numbers.
  rcases h with ⟨_, -, rfl, -⟩ | ⟨-, ⟨_, -, rfl, -⟩ | ⟨-, ⟨_, -, rfl, -⟩ | ⟨-, h⟩⟩⟩
  · cases hv
  · cases hv
  · cases hv
  · rcases h with ⟨_, hcs, -, rfl⟩ | ⟨-, ⟨_, hcs, -, rfl⟩ | ⟨-, _, hcs, -, rfl⟩⟩
    · exact .inl hcs
    · exact .inr (.inl hcs)
    · exact .inr (.inr hcs)

theorem readNumber?_of_not_isAsciiDigit {cs : List Char} (dialect : Dialect) (negative : Bool)
    (h : ∀ c, cs.head? = some c → Text.isAsciiDigit c = false) :
    readNumber? dialect negative cs = none := by
  have hnone : cs.takeWhile Text.isAsciiDigit = [] := by
    cases cs with
    | nil => rfl
    | cons c cs => simp [h c rfl]
  have hwhole : readWhole? cs = none := by
    rw [readWhole?, hnone]
  rw [readNumber?, hwhole]
  rfl

end HostSnapshot.Json
