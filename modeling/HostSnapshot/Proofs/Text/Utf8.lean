import HostSnapshot.Text.Utf8
import Mathlib.Algebra.Group.Nat.Defs
import Mathlib.Tactic.SplitIfs

namespace HostSnapshot.Text.Utf8

theorem isValidChar_toNat (c : Char) : c.toNat.isValidChar := c.valid

theorem toNat_ofNat {n : Nat} (h : n.isValidChar) : (Char.ofNat n).toNat = n := by
  rw [Char.ofNat, dif_pos h]
  rfl

/-- The continuation byte for the six bits of a number at place `k`. -/
def tail (n k : Nat) : UInt8 := UInt8.ofNat (0x80 + n / 64 ^ k % 64)

def tails (n : Nat) : Nat → List UInt8
  | 0 => []
  | k + 1 => tail n k :: tails n k

def more (n : Nat) : Nat :=
  if n < 0x80 then 0 else if n < 0x800 then 1 else if n < 0x10000 then 2 else 3

def head (n : Nat) : Nat :=
  if n < 0x80 then n
  else if n < 0x800 then 0xc0 + n / 64
  else if n < 0x10000 then 0xe0 + n / 4096
  else 0xf0 + n / 262144

theorem encodeChar_eq (c : Char) :
    encodeChar c = UInt8.ofNat (head c.toNat) :: tails c.toNat (more c.toNat) := by
  simp only [encodeChar, head, more]
  split_ifs <;> rfl

theorem head_lt {n : Nat} (h : n.isValidChar) : head n < 256 := by
  have hn : n < 0xd800 ∨ 0xdfff < n ∧ n < 0x110000 := h
  unfold head
  split_ifs <;> omega

theorem toNat_tail (n k : Nat) : (tail n k).toNat = 0x80 + n / 64 ^ k % 64 := by
  rw [tail, UInt8.toNat_ofNat']
  omega

theorem lead_one {b : Nat} (h : b < 0x80) : lead b = .ascii := if_pos h

theorem lead_none {b : Nat} (h : 0x80 ≤ b ∧ b < 0xc2 ∨ 0xf5 ≤ b) : lead b = .none := by
  rcases h with h | h
  · rw [lead, if_neg (by omega), if_pos h.2]
  · rw [lead, if_neg (by omega), if_neg (by omega), if_neg (by omega), if_neg (by omega),
      if_neg (by omega), if_neg (by omega), if_neg (by omega), if_neg (by omega),
      if_neg (by omega)]

theorem lead_two {b : Nat} (h : 0xc2 ≤ b ∧ b < 0xe0) :
    lead b = .longer 1 0x80 0xbf (b - 0xc0) := by
  rw [lead, if_neg (by omega), if_neg (by omega), if_pos h.2]

theorem lead_three {b : Nat} (h : 0xe0 ≤ b ∧ b < 0xf0) : lead b =
    .longer 2 (if b = 0xe0 then 0xa0 else 0x80) (if b = 0xed then 0x9f else 0xbf) (b - 0xe0) := by
  by_cases hlow : b = 0xe0
  · subst hlow
    rfl
  · by_cases hhigh : b = 0xed
    · subst hhigh
      rfl
    · rw [lead, if_neg (by omega), if_neg (by omega), if_neg (by omega), if_neg hlow,
        if_neg hhigh, if_pos h.2, if_neg hlow, if_neg hhigh]

theorem lead_four {b : Nat} (h : 0xf0 ≤ b ∧ b < 0xf5) : lead b =
    .longer 3 (if b = 0xf0 then 0x90 else 0x80) (if b = 0xf4 then 0x8f else 0xbf) (b - 0xf0) := by
  by_cases hlow : b = 0xf0
  · subst hlow
    rfl
  · by_cases hhigh : b = 0xf4
    · subst hhigh
      rfl
    · rw [lead, if_neg (by omega), if_neg (by omega), if_neg (by omega), if_neg (by omega),
        if_neg (by omega), if_neg (by omega), if_neg hlow, if_pos (by omega), if_neg hlow,
        if_neg hhigh]

theorem lead_cases (b : Nat) : b < 0x80 ∧ lead b = .ascii ∨ lead b = .none ∨
    (0xc2 ≤ b ∧ b < 0xe0) ∧ lead b = .longer 1 0x80 0xbf (b - 0xc0) ∨
    (0xe0 ≤ b ∧ b < 0xf0) ∧ lead b = .longer 2 (if b = 0xe0 then 0xa0 else 0x80)
      (if b = 0xed then 0x9f else 0xbf) (b - 0xe0) ∨
    (0xf0 ≤ b ∧ b < 0xf5) ∧ lead b = .longer 3 (if b = 0xf0 then 0x90 else 0x80)
      (if b = 0xf4 then 0x8f else 0xbf) (b - 0xf0) := by
  by_cases h1 : b < 0x80
  · exact .inl ⟨h1, lead_one h1⟩
  by_cases h2 : 0xc2 ≤ b ∧ b < 0xe0
  · exact .inr (.inr (.inl ⟨h2, lead_two h2⟩))
  by_cases h3 : 0xe0 ≤ b ∧ b < 0xf0
  · exact .inr (.inr (.inr (.inl ⟨h3, lead_three h3⟩)))
  by_cases h4 : 0xf0 ≤ b ∧ b < 0xf5
  · exact .inr (.inr (.inr (.inr ⟨h4, lead_four h4⟩)))
  · exact .inr (.inl (lead_none (by omega)))

/-- The first byte of a character says how many bytes are to come, and between which bounds the next
of them lies. -/
theorem lead_head {n : Nat} (h : n.isValidChar) :
    lead (head n) = .ascii ∧ head n = n ∧ more n = 0 ∨
    ∃ low high, lead (head n) = .longer (more n) low high (n / 64 ^ more n) ∧ 0 < more n ∧
      low ≤ (tail n (more n - 1)).toNat ∧ (tail n (more n - 1)).toNat ≤ high := by
  have hn : n < 0xd800 ∨ 0xdfff < n ∧ n < 0x110000 := h
  -- By the number of bytes that the character takes.
  by_cases h1 : n < 0x80
  · have hhead : head n = n := if_pos h1
    exact .inl ⟨by rw [hhead, lead, if_pos h1], hhead, if_pos h1⟩
  refine .inr ?_
  by_cases h2 : n < 0x800
  · have hhead : head n = 0xc0 + n / 64 := by rw [head, if_neg h1, if_pos h2]
    have hmore : more n = 1 := by rw [more, if_neg h1, if_pos h2]
    have hbits : 0xc0 + n / 64 - 0xc0 = n / 64 ^ 1 := by omega
    rw [hhead, hmore, lead_two (by omega), hbits, toNat_tail]
    exact ⟨_, _, rfl, by omega, by omega, by omega⟩
  by_cases h3 : n < 0x10000
  · have hhead : head n = 0xe0 + n / 4096 := by rw [head, if_neg h1, if_neg h2, if_pos h3]
    have hmore : more n = 2 := by rw [more, if_neg h1, if_neg h2, if_pos h3]
    have hbits : 0xe0 + n / 4096 - 0xe0 = n / 64 ^ 2 := by omega
    rw [hhead, hmore, lead_three (by omega), hbits, toNat_tail]
    refine ⟨_, _, rfl, by omega, ?_, ?_⟩
    all_goals split <;> omega
  · have hhead : head n = 0xf0 + n / 262144 := by rw [head, if_neg h1, if_neg h2, if_neg h3]
    have hmore : more n = 3 := by rw [more, if_neg h1, if_neg h2, if_neg h3]
    have hbits : 0xf0 + n / 262144 - 0xf0 = n / 64 ^ 3 := by omega
    rw [hhead, hmore, lead_four (by omega), hbits, toNat_tail]
    refine ⟨_, _, rfl, by omega, ?_, ?_⟩
    all_goals split <;> omega

/-- The number whose bits and bounds a first byte gives is a character that has this first byte. -/
theorem of_lead_longer {n b k low high bits : Nat} (h : lead b = .longer k low high bits)
    (hbits : n / 64 ^ k = bits) (hlow : low ≤ (tail n (k - 1)).toNat)
    (hhigh : (tail n (k - 1)).toNat ≤ high) : n.isValidChar ∧ more n = k ∧ head n = b := by
  rw [toNat_tail] at hlow hhigh
  have hvalid : n < 0xd800 ∨ 0xdfff < n ∧ n < 0x110000 → n.isValidChar := id
  -- The bounds of the second byte are what makes the number a character.
  rcases lead_cases b with ⟨-, hb⟩ | hb | ⟨hrange, hb⟩ | ⟨hrange, hb⟩ | ⟨hrange, hb⟩
  all_goals
    rw [hb] at h
    cases h
  · refine ⟨hvalid (by omega), ?_, ?_⟩
    · rw [more, if_neg (by omega), if_pos (by omega)]
    · rw [head, if_neg (by omega), if_pos (by omega)]
      omega
  · have hn : 0x800 ≤ n ∧ n < 0x10000 ∧ (n < 0xd800 ∨ 0xdfff < n) := by
      split_ifs at hlow hhigh <;> omega
    refine ⟨hvalid (by omega), ?_, ?_⟩
    · rw [more, if_neg (by omega), if_neg (by omega), if_pos hn.2.1]
    · rw [head, if_neg (by omega), if_neg (by omega), if_pos hn.2.1]
      omega
  · have hn : 0x10000 ≤ n ∧ n < 0x110000 := by
      split_ifs at hlow hhigh <;> omega
    refine ⟨hvalid (by omega), ?_, ?_⟩
    · rw [more, if_neg (by omega), if_neg (by omega), if_neg (by omega)]
    · rw [head, if_neg (by omega), if_neg (by omega), if_neg (by omega)]
      omega

theorem place_iff {n k bits : Nat} {b : UInt8} (h : 0x80 ≤ b.toNat ∧ b.toNat ≤ 0xbf) :
    n / 64 ^ (k + 1) = bits ∧ tail n k = b ↔ n / 64 ^ k = bits * 64 + (b.toNat - 0x80) := by
  rw [Nat.pow_succ, ← Nat.div_div_eq_div_mul, ← UInt8.toNat_inj, toNat_tail]
  omega

theorem encode_cons (c : Char) (s : List Char) : encode (c :: s) = encodeChar c ++ encode s :=
  List.flatMap_cons

theorem cons_eq_encode_iff {b : UInt8} {bs : List UInt8} {s : List Char} :
    b :: bs = encode s ↔ ∃ c t, s = c :: t ∧ head c.toNat = b.toNat ∧
      bs = tails c.toNat (more c.toNat) ++ encode t := by
  have hhead (c : Char) : UInt8.ofNat (head c.toNat) = b ↔ head c.toNat = b.toNat := by
    rw [← UInt8.toNat_inj, UInt8.toNat_ofNat', Nat.mod_eq_of_lt (head_lt (isValidChar_toNat c))]
  constructor
  · intro h
    cases s with
    | nil => cases h
    | cons c t =>
      rw [encode_cons, encodeChar_eq, List.cons_append, List.cons.injEq] at h
      exact ⟨c, t, rfl, (hhead c).mp h.1.symm, h.2⟩
  · rintro ⟨c, t, rfl, hb, rfl⟩
    rw [encode_cons, encodeChar_eq, List.cons_append, (hhead c).mpr hb]

/-- A state that asks for bytes asks for continuation bytes, and these make a character. -/
def State.IsSound : State → Prop
  | .start => True
  | .inside k low high bits _ => 0 < k ∧ 0x80 ≤ low ∧ high ≤ 0xbf ∧
      ∀ n, n / 64 ^ k = bits → low ≤ (tail n (k - 1)).toNat → (tail n (k - 1)).toNat ≤ high →
        n.isValidChar

theorem State.isSound_start : State.start.IsSound := trivial

/-- The bytes that make up a text from a state on. -/
def Completes : State → List Char → List UInt8 → Prop
  | .start, s, bs => bs = encode s
  | .inside k low high bits _, s, bs => ∃ c t, s = c :: t ∧ c.toNat / 64 ^ k = bits ∧
      low ≤ (tail c.toNat (k - 1)).toNat ∧ (tail c.toNat (k - 1)).toNat ≤ high ∧
      bs = tails c.toNat k ++ encode t

/-- What is left of a text and its bytes after a step. -/
def Leaves (s : List Char) (bs : List UInt8) : List Event × State → Prop
  | ([], next) => Completes next s bs
  | ([.char c], .start) => ∃ t, s = c :: t ∧ bs = encode t
  | _ => False

theorem isSound_of_lead {b k low high bits width : Nat} (h : lead b = .longer k low high bits) :
    (State.inside k low high bits width).IsSound := by
  have hbounds : 0 < k ∧ 0x80 ≤ low ∧ high ≤ 0xbf := by
    rcases lead_cases b with ⟨-, hb⟩ | hb | ⟨-, hb⟩ | ⟨-, hb⟩ | ⟨-, hb⟩
    all_goals
      rw [hb] at h
      cases h
    · decide
    all_goals split_ifs <;> decide
  exact ⟨hbounds.1, hbounds.2.1, hbounds.2.2, fun n hbits hlow hhigh =>
    (of_lead_longer h hbits hlow hhigh).1⟩

theorem isSound_begin (b : UInt8) : (begin b).2.IsSound := by
  unfold begin
  split
  · trivial
  · next h => exact isSound_of_lead h
  · trivial

/-- The bits that a state has after one of the bytes that it asks for belong to a character. -/
theorem State.IsSound.isValidChar {k low high bits width : Nat}
    (h : (State.inside (k + 1) low high bits width).IsSound) {b : UInt8}
    (hb : low ≤ b.toNat ∧ b.toNat ≤ high) {n : Nat}
    (hn : n / 64 ^ k = bits * 64 + (b.toNat - 0x80)) : n.isValidChar := by
  obtain ⟨-, hlow, hhigh, hvalid⟩ := h
  obtain ⟨hbits, rfl⟩ := (place_iff (by omega)).mpr hn
  exact hvalid n hbits hb.1 hb.2

theorem isSound_feed {st : State} (h : st.IsSound) (b : UInt8) : (feed st b).2.IsSound := by
  cases st with
  | start => exact isSound_begin b
  | inside k low high bits width =>
    unfold feed
    dsimp only
    split
    · next hb =>
      split
      · trivial
      · next hk =>
        obtain ⟨k, rfl⟩ : ∃ j, k = j + 2 := ⟨k - 2, by omega⟩
        exact ⟨by omega, by omega, by omega, fun n hn _ _ => h.isValidChar hb hn⟩
    · exact isSound_begin b

theorem feed_eq_char {st next : State} {b : UInt8} {c : Char} {events : List Event}
    (h : feed st b = (.char c :: events, next)) : events = [] ∧ next = .start := by
  have hone {d : Char} (h : ([Event.char d], State.start) = (.char c :: events, next)) :
      events = [] ∧ next = .start := by
    rw [Prod.mk.injEq, List.cons.injEq] at h
    exact ⟨h.1.2.symm, h.2.symm⟩
  unfold feed begin at h
  split at h
  · split at h
    · exact hone h
    · cases h
    · cases h
  · dsimp only at h
    split at h
    · split at h
      · exact hone h
      · cases h
    · cases h

theorem cons_eq_encode_iff_leaves {b : UInt8} {bs : List UInt8} {s : List Char} :
    b :: bs = encode s ↔ Leaves s bs (begin b) := by
  rw [cons_eq_encode_iff]
  unfold begin
  -- By what the byte says as the first one of a character.
  cases hb : lead b.toNat with
  | ascii =>
    have hlt : b.toNat < 0x80 := by
      rcases lead_cases b.toNat with ⟨hlt, -⟩ | h | ⟨-, h⟩ | ⟨-, h⟩ | ⟨-, h⟩
      · exact hlt
      all_goals
        rw [hb] at h
        cases h
    have hvalid : b.toNat.isValidChar := .inl (by omega)
    dsimp only [Leaves]
    constructor
    · rintro ⟨c, t, rfl, hhead, rfl⟩
      rcases lead_head (isValidChar_toNat c) with ⟨-, hc, hmore⟩ | ⟨low', high', hlead, -⟩
      · rw [hmore, ← hhead, hc, Char.ofNat_toNat]
        exact ⟨t, rfl, rfl⟩
      · rw [hhead, hb] at hlead
        cases hlead
    · rintro ⟨t, rfl, rfl⟩
      refine ⟨_, t, rfl, ?_⟩
      rw [toNat_ofNat hvalid, head, if_pos hlt, more, if_pos hlt]
      exact ⟨rfl, rfl⟩
  | longer k low high bits =>
    dsimp only [Leaves, Completes]
    constructor
    · rintro ⟨c, t, rfl, hhead, rfl⟩
      rcases lead_head (isValidChar_toNat c) with ⟨hlead, -⟩ | ⟨low', high', hlead, -, hlow, hhigh⟩
      · rw [hhead, hb] at hlead
        cases hlead
      · rw [hhead, hb] at hlead
        cases hlead
        exact ⟨c, t, rfl, rfl, hlow, hhigh, rfl⟩
    · rintro ⟨c, t, rfl, hbits, hlow, hhigh, rfl⟩
      obtain ⟨-, hmore, hhead⟩ := of_lead_longer hb hbits hlow hhigh
      exact ⟨c, t, rfl, hhead, by rw [hmore]⟩
  | none =>
    dsimp only [Leaves]
    refine iff_of_false ?_ id
    rintro ⟨c, t, -, hhead, -⟩
    rcases lead_head (isValidChar_toNat c) with ⟨hlead, -⟩ | ⟨low', high', hlead, -⟩
    all_goals
      rw [hhead, hb] at hlead
      cases hlead

/-- A step takes one byte off a text, and a character with its last byte. -/
theorem completes_cons_iff {st : State} (h : st.IsSound) {b : UInt8} {bs : List UInt8}
    {s : List Char} : Completes st s (b :: bs) ↔ Leaves s bs (feed st b) := by
  cases st with
  | start => exact cons_eq_encode_iff_leaves
  | inside k low high bits width =>
    obtain ⟨k, rfl⟩ := Nat.exists_eq_add_one.mpr h.1
    have hlow := h.2.1
    have hhigh := h.2.2.1
    simp only [Completes, Nat.add_sub_cancel, tails, List.cons_append, List.cons.injEq]
    unfold feed
    dsimp only
    by_cases hb : low ≤ b.toNat ∧ b.toNat ≤ high
    · have hplace {n : Nat} := @place_iff n k bits b (by omega)
      rw [if_pos hb]
      cases k with
      | zero =>
        -- The byte is the last one, so that the number is known.
        have hn := h.isValidChar hb (Nat.div_one _)
        rw [if_pos (by decide)]
        dsimp only [Leaves]
        constructor
        · rintro ⟨c, t, rfl, hbits, -, -, htail, rfl⟩
          rw [← hplace.mp ⟨hbits, htail.symm⟩, Nat.pow_zero, Nat.div_one, Char.ofNat_toNat]
          exact ⟨t, rfl, rfl⟩
        · rintro ⟨t, rfl, rfl⟩
          obtain ⟨hbits, htail⟩ := hplace.mpr (Nat.div_one _)
          refine ⟨_, t, rfl, ?_⟩
          rw [toNat_ofNat hn, htail]
          exact ⟨hbits, hb.1, hb.2, rfl, rfl⟩
      | succ k =>
        have hbounds (n : Nat) : 0x80 ≤ (tail n k).toNat ∧ (tail n k).toNat ≤ 0xbf := by
          rw [toNat_tail]
          omega
        rw [if_neg (by omega)]
        dsimp only [Leaves]
        constructor
        · rintro ⟨c, t, rfl, hbits, -, -, htail, rfl⟩
          exact ⟨c, t, rfl, hplace.mp ⟨hbits, htail.symm⟩, (hbounds _).1, (hbounds _).2, rfl⟩
        · rintro ⟨c, t, rfl, hn, -, -, rfl⟩
          obtain ⟨hbits, rfl⟩ := hplace.mpr hn
          exact ⟨c, t, rfl, hbits, hb.1, hb.2, rfl, rfl⟩
    · rw [if_neg hb]
      dsimp only [Leaves]
      refine iff_of_false ?_ id
      rintro ⟨c, t, -, -, hlow', hhigh', rfl, -⟩
      exact hb ⟨hlow', hhigh'⟩

theorem completes_nil_iff {st : State} (h : st.IsSound) {s : List Char} :
    Completes st s [] ↔ st = .start ∧ s = [] := by
  cases st with
  | start => cases s <;> simp [Completes, encode, encodeChar_eq]
  | inside k low high bits width =>
    obtain ⟨k, rfl⟩ := Nat.exists_eq_add_one.mpr h.1
    simp [Completes, tails]

theorem strictFrom_cons (st : State) (first : UInt8) (position : Nat) (b : UInt8)
    (bs : List UInt8) : ∃ first', strictFrom st first position (b :: bs) = match feed st b with
      | ([], next) => strictFrom next first' (position + 1) bs
      | (.char c :: _, next) => (strictFrom next first' (position + 1) bs).map (c :: ·)
      | (.badStart :: _, _) => .error ⟨b, position, 1, .start⟩
      | (.badContinuation width :: _, _) =>
        .error ⟨first', position - width, width, .continuation⟩ := by
  cases st with
  | start => exact ⟨b, rfl⟩
  | inside => exact ⟨first, rfl⟩

/-- Strict reading takes the bytes that make up a text, and gives that text. -/
theorem strictFrom_eq_ok_iff {st : State} (h : st.IsSound) {first : UInt8} {position : Nat}
    {bs : List UInt8} {s : List Char} :
    strictFrom st first position bs = .ok s ↔ Completes st s bs := by
  -- On the bytes, from any sound state, since a step leads to another sound state.
  induction bs generalizing st first position s with
  | nil =>
    rw [completes_nil_iff h]
    cases st <;> simp [strictFrom, eq_comm]
  | cons b bs ih =>
    obtain ⟨first', hstep⟩ := strictFrom_cons st first position b bs
    have hnext := isSound_feed h b
    rw [completes_cons_iff h, hstep]
    rcases hfeed : feed st b with ⟨_ | ⟨event, events⟩, next⟩
    · rw [hfeed] at hnext
      exact ih hnext
    · cases event with
      | char c =>
        obtain ⟨rfl, rfl⟩ := feed_eq_char hfeed
        have hrest {t : List Char} : strictFrom .start first' (position + 1) bs = .ok t ↔
            bs = encode t := ih State.isSound_start
        dsimp only [Leaves]
        simp only [← hrest]
        cases strictFrom .start first' (position + 1) bs <;> simp [Except.map, eq_comm]
      | badStart => simp [Leaves]
      | badContinuation width => simp [Leaves]

/-- The texts that strict reading gives are those that were written. -/
theorem strict_eq_ok_iff {bs : List UInt8} {s : List Char} : strict bs = .ok s ↔ bs = encode s :=
  strictFrom_eq_ok_iff State.isSound_start

def IsValid (bs : List UInt8) : Prop := ∃ s, bs = encode s

theorem strict_of_not_isValid {bs : List UInt8} (h : ¬ IsValid bs) :
    ∃ place, strict bs = .error place := by
  cases hs : strict bs with
  | ok s => exact absurd ⟨s, strict_eq_ok_iff.mp hs⟩ h
  | error place => exact ⟨place, rfl⟩

/-- Lenient reading has nothing to replace in the bytes that make up a text. -/
theorem replaceFrom_of_completes {st : State} (h : st.IsSound) {bs : List UInt8} {s : List Char}
    (hs : Completes st s bs) : replaceFrom st bs = s := by
  induction bs generalizing st s with
  | nil =>
    obtain ⟨rfl, rfl⟩ := (completes_nil_iff h).mp hs
    rfl
  | cons b bs ih =>
    have hnext := isSound_feed h b
    rw [completes_cons_iff h] at hs
    rw [replaceFrom]
    rcases hfeed : feed st b with ⟨_ | ⟨event, events⟩, next⟩
    · rw [hfeed] at hs hnext
      exact ih hnext hs
    · rw [hfeed] at hs
      cases event with
      | char c =>
        obtain ⟨rfl, rfl⟩ := feed_eq_char hfeed
        obtain ⟨t, rfl, ht⟩ := hs
        exact congrArg (c :: ·) (ih State.isSound_start ht)
      | badStart => simp [Leaves] at hs
      | badContinuation width => simp [Leaves] at hs

theorem replace_encode (s : List Char) : replace (encode s) = s :=
  replaceFrom_of_completes State.isSound_start rfl

end HostSnapshot.Text.Utf8
