import HostSnapshot.Mounts
import HostSnapshot.Proofs.Text.Pieces

namespace HostSnapshot.MountOptions

def withoutFeed (s : List Char) : List Char := if s.getLast? = some '\n' then s.dropLast else s

def elements (s : List Char) : List (List Char) := Text.pieces (· == ',') (withoutFeed s)

variable {option s : List Char} {c : Char}

theorem withoutFeed_cons (h : ¬ (c = '\n' ∧ s = [])) :
    withoutFeed (c :: s) = c :: withoutFeed s := by
  cases s with
  | nil =>
    have hc : c ≠ '\n' := fun hc => h ⟨hc, rfl⟩
    simp [withoutFeed, hc]
  | cons d s =>
    rw [withoutFeed, withoutFeed, List.getLast?_cons_cons, List.dropLast_cons_cons]
    split <;> rfl

theorem elements_of_notMem (h : '\n' ∉ s) : elements s = Text.pieces (· == ',') s := by
  rw [elements, withoutFeed, if_neg]
  intro hlast
  exact h (List.mem_of_getLast? hlast)

theorem endsHere_cons (h : ¬ (c = '\n' ∧ s = [])) : endsHere (c :: s) = (c == ',') := by
  rw [endsHere]
  intro hc hs
  exact h ⟨hc, hs⟩

/-- An option stands first if it is all that comes before a comma. -/
theorem standsFirst_iff (ho : ',' ∉ option) (hn : '\n' ∉ option) :
    standsFirst option s = true ↔ (withoutFeed s).takeWhile (!· == ',') = option := by
  unfold standsFirst
  -- On the option, which is taken off the text character by character.
  induction option generalizing s with
  | nil =>
    cases s with
    | nil => simp [Json.after?, endsHere, withoutFeed]
    | cons c s =>
      rw [Json.after?]
      by_cases hfeed : c = '\n' ∧ s = []
      · obtain ⟨rfl, rfl⟩ := hfeed
        simp [endsHere, withoutFeed]
      · simp [endsHere_cons hfeed, withoutFeed_cons hfeed, List.takeWhile_cons]
  | cons a option ih =>
    rw [List.mem_cons, not_or] at ho hn
    cases s with
    | nil => simp [Json.after?, withoutFeed]
    | cons c s =>
      rw [Json.after?]
      by_cases hac : a = c
      · subst hac
        have hfeed : ¬ (a = '\n' ∧ s = []) := fun h => hn.1 h.1.symm
        rw [if_pos rfl, ih ho.2 hn.2, withoutFeed_cons hfeed]
        simp [Ne.symm ho.1]
      · rw [if_neg hac]
        by_cases hfeed : c = '\n' ∧ s = []
        · obtain ⟨rfl, rfl⟩ := hfeed
          simp [withoutFeed]
        · rw [withoutFeed_cons hfeed]
          by_cases hc : c = ','
          · simp [hc]
          · simp [hc, Ne.symm hac]

theorem standsLater_iff (ho : ',' ∉ option) (hn : '\n' ∉ option) :
    standsLater option s = true ↔ option ∈ (elements s).tail := by
  unfold elements
  induction s with
  | nil => simp [standsLater, withoutFeed, Text.pieces]
  | cons c s ih =>
    rw [standsLater, Bool.or_eq_true, Bool.and_eq_true, ih, standsFirst_iff ho hn]
    by_cases hfeed : c = '\n' ∧ s = []
    · obtain ⟨rfl, rfl⟩ := hfeed
      simp [withoutFeed, Text.pieces]
    · rw [withoutFeed_cons hfeed, Text.tail_pieces_cons]
      by_cases hc : c = ','
      · have hmem := Text.mem_pieces_iff (p := (· == ',')) (s := withoutFeed s) (w := option)
        simp [hc, hmem]
      · simp [hc]

theorem has_iff (ho : ',' ∉ option) (hn : '\n' ∉ option) :
    has option s = true ↔ option ∈ elements s := by
  rw [has, Bool.or_eq_true, standsFirst_iff ho hn, standsLater_iff ho hn, elements,
    Text.mem_pieces_iff]

theorem has_ro_iff : has ['r', 'o'] s = true ↔ ['r', 'o'] ∈ elements s :=
  has_iff (by decide) (by decide)

theorem has_rw_iff : has ['r', 'w'] s = true ↔ ['r', 'w'] ∈ elements s :=
  has_iff (by decide) (by decide)

/-- Without blanks, a mount is read-only if `ro` is one of its options; `rw` does not matter. -/
theorem decide_false (hs : '\n' ∉ s) :
    decide s false = (Text.pieces (· == ',') s).contains ['r', 'o'] := by
  unfold decide
  rw [Bool.eq_iff_iff, List.contains_iff_mem, ← elements_of_notMem hs, ← has_ro_iff]
  split <;> simp_all

theorem outcome_readOnly (options : String) (default : Bool) :
    (readOnly options default).outcome = .ok (decide options.toList default) := by
  unfold readOnly
  dsimp only
  split <;> rfl

end HostSnapshot.MountOptions
