import HostSnapshot.Proofs.Text.Utf8
import HostSnapshot.Text.Basic

namespace HostSnapshot.Text

/-- A plain character: one of ASCII that ends no line of a file. -/
def plain? (c : Char) : Option Char :=
  if c.toNat < 0x80 ∧ c ≠ '\r' ∧ c ≠ '\n' then some c else none

def asciiByte (c : Char) : UInt8 := UInt8.ofNat c.toNat

def plainByte? (b : UInt8) : Option Char := plain? (Char.ofNat b.toNat)

theorem plain?_eq_none {c : Char} (h : 0x80 ≤ c.toNat) : plain? c = none :=
  if_neg fun hc => by omega

theorem toNat_ofNat_byte (b : UInt8) : (Char.ofNat b.toNat).toNat = b.toNat := by
  have hb := b.toNat_lt
  exact Utf8.toNat_ofNat (.inl (by omega))

theorem plainByte?_eq_none {b : UInt8} (h : 0x80 ≤ b.toNat) : plainByte? b = none := by
  apply plain?_eq_none
  rwa [toNat_ofNat_byte]

/-- The byte of a plain character is the only one that shows it. -/
theorem plainByte?_eq_some_iff {c : Char} (h : plain? c = some c) {b : UInt8} :
    plainByte? b = some c ↔ b = asciiByte c := by
  have hc : c.toNat < 0x80 := by
    rcases Nat.lt_or_ge c.toNat 0x80 with hc | hc
    · exact hc
    · rw [plain?_eq_none hc] at h
      cases h
  constructor
  · intro hb
    unfold plainByte? plain? at hb
    split at hb
    · rw [← Option.some.inj hb, asciiByte, toNat_ofNat_byte, UInt8.ofNat_toNat]
    · cases hb
  · rintro rfl
    have hbyte : (asciiByte c).toNat = c.toNat := by
      rw [asciiByte, UInt8.toNat_ofNat']
      omega
    rw [plainByte?, hbyte, Char.ofNat_toNat]
    exact h

/-! What is hidden leaves a gap, of which only one is seen at a time. -/

section Seen

variable {α : Type}

def gap : Option α → List (Option α) → List (Option α)
  | none, none :: s => none :: s
  | x, s => x :: s

def seen (s : List (Option α)) : List (Option α) := s.foldr gap []

theorem seen_cons (x : Option α) (s : List (Option α)) : seen (x :: s) = gap x (seen s) := rfl

theorem gap_some (c : α) (s : List (Option α)) : gap (some c) s = some c :: s := rfl

theorem exists_gap_eq (s : List (Option α)) : ∃ t, gap none s = none :: t := by
  rcases s with _ | ⟨_ | c, s⟩ <;> exact ⟨_, rfl⟩

theorem gap_gap (s : List (Option α)) : gap none (gap none s) = gap none s := by
  rcases s with _ | ⟨_ | c, s⟩ <;> rfl

variable {w : List α}

theorem not_prefix_none (hw : w ≠ []) (s : List (Option α)) : ¬ w.map some <+: none :: s := by
  intro h
  obtain ⟨c, w, rfl⟩ := List.exists_cons_of_ne_nil hw
  simp [List.prefix_cons_iff] at h

theorem infix_gap_iff (hw : w ≠ []) {s : List (Option α)} :
    w.map some <:+: gap none s ↔ w.map some <:+: s := by
  have hcons {t : List (Option α)} : w.map some <:+: none :: t ↔ w.map some <:+: t := by
    rw [List.infix_cons_iff, or_iff_right (not_prefix_none hw t)]
  rcases s with _ | ⟨_ | c, s⟩
  · exact hcons
  · exact Iff.rfl
  · exact hcons

theorem prefix_seen_iff (s : List (Option α)) : w.map some <+: seen s ↔ w.map some <+: s := by
  induction w generalizing s with
  | nil => simp
  | cons c w ih =>
    rcases s with _ | ⟨_ | d, s⟩
    · exact Iff.rfl
    · obtain ⟨t, ht⟩ := exists_gap_eq (seen s)
      rw [seen_cons, ht]
      exact iff_of_false (not_prefix_none (List.cons_ne_nil c w) t)
        (not_prefix_none (List.cons_ne_nil c w) s)
    · rw [seen_cons, gap_some, List.map_cons, List.cons_prefix_cons, List.cons_prefix_cons, ih]

/-- No word is lost or made up between gaps. -/
theorem infix_seen_iff (hw : w ≠ []) (s : List (Option α)) :
    w.map some <:+: seen s ↔ w.map some <:+: s := by
  induction s with
  | nil => exact Iff.rfl
  | cons x s ih =>
    cases x with
    | none =>
      rw [seen_cons, infix_gap_iff hw, ih, List.infix_cons_iff,
        or_iff_right (not_prefix_none hw s)]
    | some c =>
      have hhead : w.map some <+: some c :: seen s ↔ w.map some <+: some c :: s :=
        prefix_seen_iff (some c :: s)
      rw [seen_cons, gap_some, List.infix_cons_iff, hhead, ih, List.infix_cons_iff]

/-- A word can be looked for where it was shown, if each part of it is shown by one thing only. -/
theorem infix_map_iff_of_inverse {β : Type} {f : β → Option α} {g : α → β}
    (h : ∀ c ∈ w, ∀ b, f b = some c ↔ b = g c) (s : List β) :
    w.map some <:+: s.map f ↔ w.map g <:+: s := by
  have hparts (t : List β) : w.map some = t.map f ↔ t = w.map g := by
    induction w generalizing t with
    | nil => simp [eq_comm]
    | cons c w ih =>
      rw [List.forall_mem_cons] at h
      cases t with
      | nil => simp
      | cons b t =>
        simp only [List.map_cons, List.cons.injEq]
        rw [eq_comm, h.1 b, ih h.2 t]
  rw [List.infix_map_iff]
  simp only [hparts, exists_eq_right]

end Seen

namespace Utf8

/-- What a state asks for is not a character of ASCII. -/
def State.IsWide : State → Prop
  | .start => True
  | .inside k low high bits _ => ∀ n, n / 64 ^ k = bits → low ≤ (tail n (k - 1)).toNat →
      (tail n (k - 1)).toNat ≤ high → 0x80 ≤ n

/-- What a state has begun is hidden, so that it shows as a gap. -/
def State.ahead : State → List (Option Char) → List (Option Char)
  | .start, s => s
  | .inside .., s => gap none s

theorem isWide_of_lead {b k low high bits width : Nat} (h : lead b = .longer k low high bits) :
    (State.inside k low high bits width).IsWide := by
  intro n hbits hlow hhigh
  obtain ⟨hk, -⟩ := @isSound_of_lead b k low high bits width h
  obtain ⟨-, hmore, -⟩ := of_lead_longer h hbits hlow hhigh
  rcases Nat.lt_or_ge n 0x80 with hn | hn
  · rw [more, if_pos hn] at hmore
    omega
  · exact hn

theorem isWide_begin (b : UInt8) : (begin b).2.IsWide := by
  unfold begin
  split
  · trivial
  · next h => exact isWide_of_lead h
  · trivial

theorem State.IsWide.le {k low high bits width : Nat}
    (h : (State.inside (k + 1) low high bits width).IsWide) {b : UInt8}
    (hrange : 0x80 ≤ b.toNat ∧ b.toNat ≤ 0xbf) (hb : low ≤ b.toNat ∧ b.toNat ≤ high) {n : Nat}
    (hn : n / 64 ^ k = bits * 64 + (b.toNat - 0x80)) : 0x80 ≤ n := by
  obtain ⟨hbits, rfl⟩ := (place_iff hrange).mpr hn
  exact h n hbits hb.1 hb.2

theorem isWide_feed {st : State} (hsound : st.IsSound) (h : st.IsWide) (b : UInt8) :
    (feed st b).2.IsWide := by
  cases st with
  | start => exact isWide_begin b
  | inside k low high bits width =>
    obtain ⟨-, hlow, hhigh, -⟩ := hsound
    unfold feed
    dsimp only
    split
    · next hb =>
      split
      · trivial
      · next hk =>
        obtain ⟨k, rfl⟩ : ∃ j, k = j + 2 := ⟨k - 2, by omega⟩
        exact fun n hn _ _ => h.le (by omega) hb hn
    · exact isWide_begin b

def seenEvents (events : List Event) (s : List (Option Char)) : List (Option Char) :=
  events.foldr (fun e s => gap (plain? e.replaced) s) s

theorem seenEvents_begin (b : UInt8) (s : List (Option Char)) :
    seenEvents (begin b).1 ((begin b).2.ahead s) = gap (plainByte? b) s := by
  by_cases hb : b.toNat < 0x80
  · rw [begin, lead_one hb]
    rfl
  · have hnone := plainByte?_eq_none (b := b) (by omega)
    rw [begin, hnone]
    rcases lead_cases b.toNat with ⟨hlt, -⟩ | h | ⟨-, h⟩ | ⟨-, h⟩ | ⟨-, h⟩
    · exact absurd hlt hb
    all_goals
      rw [h]
      rfl

/-- A byte shows, after what was begun before it, exactly if it is plain. -/
theorem seenEvents_feed {st : State} (hsound : st.IsSound) (hwide : st.IsWide) (b : UInt8)
    (s : List (Option Char)) :
    seenEvents (feed st b).1 ((feed st b).2.ahead s) = st.ahead (gap (plainByte? b) s) := by
  cases st with
  | start => exact seenEvents_begin b s
  -- A byte that continues shows nothing; any other one ends the character and begins anew.
  | inside k low high bits width =>
    have hlow := hsound.2.1
    have hhigh := hsound.2.2.1
    obtain ⟨k, rfl⟩ := Nat.exists_eq_add_one.mpr hsound.1
    unfold feed
    dsimp only
    by_cases hb : low ≤ b.toNat ∧ b.toNat ≤ high
    · rw [if_pos hb, plainByte?_eq_none (by omega)]
      change _ = gap none (gap none s)
      rw [gap_gap]
      by_cases hk : k + 1 ≤ 1
      · obtain rfl : k = 0 := by omega
        have hn := hwide.le (by omega) hb (Nat.div_one _)
        have hvalid := hsound.isValidChar hb (Nat.div_one _)
        rw [if_pos hk]
        simp only [seenEvents, List.foldr_cons, List.foldr_nil, Event.replaced, State.ahead]
        rw [plain?_eq_none (by rwa [toNat_ofNat hvalid])]
      · rw [if_neg hk]
        rfl
    · rw [if_neg hb]
      change gap none (seenEvents (begin b).1 ((begin b).2.ahead s)) = _
      rw [seenEvents_begin]
      rfl

/-- Lenient reading shows what the bytes show. -/
theorem seen_replaceFrom {st : State} (hsound : st.IsSound) (hwide : st.IsWide)
    (bs : List UInt8) :
    seen ((replaceFrom st bs).map plain?) = st.ahead (seen (bs.map plainByte?)) := by
  induction bs generalizing st with
  | nil => cases st <;> rfl
  | cons b bs ih =>
    have hstep : seen ((replaceFrom st (b :: bs)).map plain?) =
        seenEvents (feed st b).1 (seen ((replaceFrom (feed st b).2 bs).map plain?)) := by
      rw [replaceFrom, List.map_append, List.map_map, seen, List.foldr_append, List.foldr_map]
      rfl
    rw [hstep, ih (isSound_feed hsound b) (isWide_feed hsound hwide b),
      seenEvents_feed hsound hwide]
    rfl

end Utf8

theorem seen_unifyLineEnds (s : List Char) :
    seen ((unifyLineEnds s).map plain?) = seen (s.map plain?) := by
  have hr : plain? '\r' = none := rfl
  have hn : plain? '\n' = none := rfl
  fun_induction unifyLineEnds s with
  | case1 => rfl
  | case2 s ih => simp only [List.map_cons, seen_cons, hr, hn, ih, gap_gap]
  | case3 s _ ih => simp only [List.map_cons, seen_cons, hr, hn, ih]
  | case4 c s _ _ ih => simp only [List.map_cons, seen_cons, ih]

def IsPlainWord (w : List Char) : Prop := ∀ c ∈ w, plain? c = some c

instance (w : List Char) : Decidable (IsPlainWord w) :=
  List.decidableBAll (fun c => plain? c = some c) w

variable {w : List Char}

theorem IsPlainWord.infix_chars_iff (h : IsPlainWord w) (s : List Char) :
    w.map some <:+: s.map plain? ↔ w <:+: s := by
  have hid : ∀ c ∈ w, ∀ d, plain? d = some c ↔ d = id c := by
    intro c hc d
    constructor
    · intro hd
      unfold plain? at hd
      split at hd
      · exact Option.some.inj hd
      · cases hd
    · rintro rfl
      exact h d hc
  rw [infix_map_iff_of_inverse hid, List.map_id]

theorem IsPlainWord.infix_bytes_iff (h : IsPlainWord w) (bs : List UInt8) :
    w.map some <:+: bs.map plainByte? ↔ w.map asciiByte <:+: bs :=
  infix_map_iff_of_inverse (fun c hc _ => plainByte?_eq_some_iff (h c hc)) bs

/-- A plain word stands in the text of some bytes exactly if it stands in the bytes. -/
theorem IsPlainWord.infix_text_iff (h : IsPlainWord w) (bs : List UInt8) :
    w <:+: unifyLineEnds (Utf8.replace bs) ↔ w.map asciiByte <:+: bs := by
  by_cases hw : w = []
  · simp [hw]
  · have hseen : seen ((Utf8.replace bs).map plain?) = seen (bs.map plainByte?) :=
      Utf8.seen_replaceFrom Utf8.State.isSound_start trivial bs
    rw [← h.infix_chars_iff, ← infix_seen_iff hw, seen_unifyLineEnds, hseen, infix_seen_iff hw,
      h.infix_bytes_iff]

end HostSnapshot.Text
