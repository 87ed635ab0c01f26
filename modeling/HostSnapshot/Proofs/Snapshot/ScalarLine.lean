import HostSnapshot.Proofs.Json.Leaf
import HostSnapshot.Proofs.Json.Printed
import HostSnapshot.Proofs.Snapshot.Scalar
import HostSnapshot.Proofs.Text.FirstLine

namespace HostSnapshot

namespace Scalar

variable {c : Char} {s : String} {w : List Char}

/-- What a text on a line is read as: JSON if it starts with a quote, and else itself. -/
def read? (text : String) : Option String :=
  if text.toList.head? = some '"' then
    match Json.ofText? text with
    | some (.str s) => some s
    | _ => none
  else some text

/-- A plain text with a line feed after it. -/
def IsPlainLine (s : String) : Prop := ∃ w, isPlain w = true ∧ s.toList = w ++ ['\n']

theorem isPlainLine_iff : IsPlainLine s ↔
    s.toList.getLast? = some '\n' ∧ isPlain s.toList.dropLast = true := by
  constructor
  · rintro ⟨w, hw, hs⟩
    rw [hs, List.getLast?_concat, List.dropLast_concat]
    exact ⟨rfl, hw⟩
  · rintro ⟨hlast, hw⟩
    obtain ⟨w, hs⟩ := List.getLast?_eq_some_iff.mp hlast
    rw [hs, List.dropLast_concat] at hw
    exact ⟨w, hw, hs⟩

instance (s : String) : Decidable (IsPlainLine s) := decidable_of_iff _ isPlainLine_iff.symm

def startsNumber (s : List Char) : Bool :=
  s.head?.any fun c => Text.isAsciiDigit c || c == '+' || c == '-' || c == '.'

/-- A text whose scalar stands on one line, reads back, and without quotes is neither a word that
stands for something else nor a number. -/
structure Stands (s : String) : Prop where
  line : ∀ c ∈ (Json.str s).scalar.toList, Text.isLineEnd c = false
  reads : read? (Json.str s).scalar = some s
  word : (Json.str s).scalar.toList.head? ≠ some '"' →
    reserved.contains (lowered (Json.str s).scalar) = false
  number : (Json.str s).scalar.toList.head? ≠ some '"' →
    startsNumber (Json.str s).scalar.toList = false

theorem not_isBlank_of_isFirst (h : isFirst c = true) : Text.isBlank c = false :=
  Text.not_isBlank_of_class (by decide) h

theorem not_isBlank_of_isLater (h : isLater c = true) : Text.isBlank c = false :=
  Text.not_isBlank_of_class (by decide +kernel) h

theorem not_startsNumber_of_isFirst (h : isFirst c = true) :
    (Text.isAsciiDigit c || c == '+' || c == '-' || c == '.') = false := by
  have hdigit : Text.isAsciiDigit c = false := by
    rw [← Bool.not_eq_true]
    intro hd
    rw [isFirst_of_isAsciiDigit hd] at h
    cases h
  have hne (d : Char) (hd : isFirst d = false) : (c == d) = false := by
    rw [beq_eq_false_iff_ne]
    rintro rfl
    rw [hd] at h
    cases h
  rw [hdigit, hne '+' rfl, hne '-' rfl, hne '.' rfl]
  rfl

theorem blanks_of_isPlain (h : isPlain w = true) :
    (∀ c ∈ w, c = ' ' ∨ Text.isBlank c = false) ∧ w.getLast? ≠ some ' ' := by
  unfold isPlain at h
  split at h
  · next c v vs heq =>
    simp only [Bool.and_eq_true, List.all_eq_true] at h
    obtain ⟨⟨hc, hv⟩, hvs⟩ := h
    constructor
    · intro d hd
      rcases Text.mem_pieces (p := (· == ' ')) hd with hp | ⟨u, hu, hd⟩
      · exact .inl (beq_iff_eq.mp hp)
      · refine .inr ?_
        rw [heq] at hu
        rcases List.mem_cons.mp hu with rfl | hu
        · rcases List.mem_cons.mp hd with rfl | hd
          · exact not_isBlank_of_isFirst hc
          · apply not_isBlank_of_isLater
            simp [isLater, hv d hd]
        · exact not_isBlank_of_isLater ((hvs u hu).2 d hd)
    · intro hlast
      obtain ⟨t, rfl⟩ := List.getLast?_eq_some_iff.mp hlast
      obtain ⟨u, us, hus⟩ := Text.pieces_append_singleton (p := (· == ' ')) (c := ' ') rfl t
      rw [heq, List.cons_append, List.cons.injEq] at hus
      have hnil := (hvs [] (hus.2 ▸ List.mem_append_right _ List.mem_cons_self)).1
      cases hnil
  · cases h

theorem isLineEnd_of_isPlain (h : isPlain w = true) : ∀ c ∈ w, Text.isLineEnd c = false := by
  intro c hc
  rcases (blanks_of_isPlain h).1 c hc with rfl | hblank
  · rfl
  · exact Text.isLineEnd_of_not_isBlank hblank

theorem scalar_of_standsBare (h : standsBare s = true) : (Json.str s).scalar = s := by
  unfold Json.scalar
  dsimp only
  rw [if_pos h]

theorem scalar_of_not_standsBare (h : standsBare s = false) :
    (Json.str s).scalar = (Json.str s).render .spaced := by
  unfold Json.scalar
  dsimp only
  rw [if_neg (by rw [h]; decide)]
  simp [Json.render, Json.chars]

/-- No reserved word has a line feed, so a plain line stands bare. -/
theorem standsBare_of_isPlainLine (h : IsPlainLine s) : standsBare s = true := by
  obtain ⟨w, hw, hs⟩ := h
  have hreserved : ∀ r ∈ reserved, '\n' ∉ r.toList := by decide
  have hlowered : '\n' ∈ (lowered s).toList := by
    rw [lowered, String.toList_ofList, hs, List.map_append]
    exact List.mem_append_right _ List.mem_cons_self
  have hfree : lowered s ∉ reserved := fun hmem => hreserved _ hmem hlowered
  simp [standsBare, hs, hw, hfree]

theorem isPlain_of_standsBare (h : standsBare s = true) (hline : ¬ IsPlainLine s) :
    isPlain s.toList = true := by
  obtain ⟨⟨w, hw, hs | hs⟩, -⟩ := standsBare_spec h
  · rwa [hs]
  · exact absurd ⟨w, hw, hs⟩ hline

theorem stands_of_standsBare (h : standsBare s = true) (hline : ¬ IsPlainLine s) : Stands s := by
  have hplain := isPlain_of_standsBare h hline
  obtain ⟨c, hc, hfirst⟩ := (isPlain_spec hplain).1
  have hscalar := scalar_of_standsBare h
  have hquote : s.toList.head? ≠ some '"' := by
    intro hq
    rw [hc, Option.some.injEq] at hq
    subst hq
    cases hfirst
  constructor
  · rw [hscalar]
    exact isLineEnd_of_isPlain hplain
  · rw [hscalar, read?, if_neg hquote]
  · rw [hscalar]
    exact fun _ => (standsBare_spec h).2
  · rw [hscalar, startsNumber, hc]
    exact fun _ => not_startsNumber_of_isFirst hfirst

theorem stands_of_not_standsBare (h : standsBare s = false) : Stands s := by
  have hscalar := scalar_of_not_standsBare h
  have hchars : (Json.str s).scalar.toList = Json.quoteChars s.toList := by
    rw [hscalar]
    simp [Json.render, Json.chars, Json.leafChars]
  have hhead : (Json.str s).scalar.toList.head? = some '"' := by
    rw [hchars]
    rfl
  have hread : Json.ofText? (Json.str s).scalar = some (.str s) := by
    rw [hscalar]
    exact Json.ofText?_render Json.Style.spaced_isReadable rfl rfl (Nat.zero_le _)
  constructor
  · intro c hc
    rw [hchars] at hc
    exact Text.isLineEnd_of_isShown (Json.areShown_quoteChars _ c hc)
  · rw [read?, if_pos hhead, hread]
  · exact fun hbare => absurd hhead hbare
  · exact fun hbare => absurd hhead hbare

theorem stands_iff : Stands s ↔ ¬ IsPlainLine s := by
  constructor
  · intro h hline
    obtain ⟨w, -, hs⟩ := id hline
    have hmem : '\n' ∈ s.toList := by
      rw [hs]
      exact List.mem_append_right _ List.mem_cons_self
    have hend := h.line '\n'
    rw [scalar_of_standsBare (standsBare_of_isPlainLine hline)] at hend
    cases hend hmem
  · intro hline
    cases h : standsBare s with
    | true => exact stands_of_standsBare h hline
    | false => exact stands_of_not_standsBare h

/-- Of the texts that start like a name or a path, JSON reads two words as numbers. -/
theorem readLeaf?_number {cs r : List Char} {v : Json} (hfirst : ∀ c, cs.head? = some c →
    isFirst c = true) (hv : v.isNumber = true) (h : Json.readLeaf? .plain cs = some (v, r)) :
    cs = "NaN".toList ++ r ∨ cs = "Infinity".toList ++ r := by
  have hdigit : ∀ c, cs.head? = some c → Text.isAsciiDigit c = false := by
    intro c hc
    have h := not_startsNumber_of_isFirst (hfirst c hc)
    simp only [Bool.or_eq_false_iff] at h
    exact h.1.1.1
  have hword : Json.readWord? cs = some (v, r) := by
    unfold Json.readLeaf? at h
    split at h
    · cases hfirst _ rfl
    · cases hfirst _ rfl
    · rwa [Json.readNumber?_of_not_isAsciiDigit .plain false hdigit] at h
  rcases Json.readWord?_number hv hword with hcs | hcs | hcs
  · exact .inl hcs
  · exact .inr hcs
  · rw [hcs] at hfirst
    cases hfirst '-' rfl

/-- A text that starts like a name or a path and that JSON reads as a number is one of the two
words, up to blanks after it. -/
theorem ofText?_number {v : Json} (hc : s.toList.head? = some c) (hfirst : isFirst c = true)
    (hv : v.isNumber = true) (h : Json.ofText? s = some v) :
    ∃ r, (s.toList = "NaN".toList ++ r ∨ s.toList = "Infinity".toList ++ r) ∧
      ∀ c ∈ r, Json.isSpace c = true := by
  have hhead : ∀ d, s.toList.head? = some d → isFirst d = true := by
    intro d hd
    rw [hc, Option.some.injEq] at hd
    rwa [← hd]
  have hskip : Json.skipSpaces s.toList = s.toList := by
    obtain ⟨cs, hcs⟩ := List.head?_eq_some_iff.mp hc
    rw [hcs]
    exact Json.skipSpaces_cons (Json.isSpace_of_not_isBlank (not_isBlank_of_isFirst hfirst)) cs
  unfold Json.ofText? Json.ofChars? Json.ofCharsIn? at h
  rw [hskip] at h
  split at h
  · next u r hread =>
    split at h
    · next hempty =>
      cases h
      -- The text starts like a name or a path, so neither a list nor an object is read.
      have hleaf : Json.readLeaf? .plain s.toList = some (v, r) := by
        rwa [Json.readValue?_leaf] at hread
        · intro hd
          cases hhead _ hd
        · intro hd
          cases hhead _ hd
      refine ⟨r, readLeaf?_number hhead hv hleaf, ?_⟩
      rwa [List.isEmpty_iff, Json.skipSpaces, List.dropWhile_eq_nil_iff] at hempty
    · cases h
  · cases h

theorem exists_number_iff (hline : ¬ IsPlainLine s) :
    (∃ v, Json.ofText? (Json.str s).scalar = some v ∧ v.isNumber = true) ↔
      s = "NaN" ∨ s = "Infinity" := by
  constructor
  · rintro ⟨v, hread, hv⟩
    cases h : standsBare s with
    | true =>
      rw [scalar_of_standsBare h] at hread
      have hplain := isPlain_of_standsBare h hline
      obtain ⟨c, hc, hfirst⟩ := (isPlain_spec hplain).1
      obtain ⟨hblanks, hlast⟩ := blanks_of_isPlain hplain
      obtain ⟨r, hs, hspaces⟩ := ofText?_number hc hfirst hv hread
      have hr : r = [] := by
        -- What follows the word is blank, so that it would end with a space.
        rw [← List.getLast?_eq_none_iff, Option.eq_none_iff_forall_ne_some]
        intro d hd
        have hmem := List.mem_of_getLast? hd
        have hend : s.toList.getLast? = some d := by
          rcases hs with hs | hs
          · rw [hs, List.getLast?_append, hd, Option.some_or]
          · rw [hs, List.getLast?_append, hd, Option.some_or]
        rcases hblanks d (List.mem_of_getLast? hend) with rfl | hblank
        · exact hlast hend
        · have hspace := Json.isSpace_of_not_isBlank hblank
          rw [hspaces d hmem] at hspace
          cases hspace
      rw [hr, List.append_nil, List.append_nil, String.toList_inj, String.toList_inj] at hs
      exact hs
    | false =>
      rw [scalar_of_not_standsBare h,
        Json.ofText?_render Json.Style.spaced_isReadable rfl rfl (Nat.zero_le _)] at hread
      cases hread
      cases hv
  · have hnan : standsBare "NaN" = true := by decide
    have hinfinity : standsBare "Infinity" = true := by decide
    rintro (rfl | rfl)
    · rw [scalar_of_standsBare hnan]
      exact ⟨_, rfl, rfl⟩
    · rw [scalar_of_standsBare hinfinity]
      exact ⟨_, rfl, rfl⟩

end Scalar

end HostSnapshot
