import HostSnapshot.Proofs.Json.Reading
import HostSnapshot.Proofs.Text.Pieces
import HostSnapshot.Snapshot.Text

namespace HostSnapshot

namespace Scalar

theorem ne_newline_of_class {p : Char → Bool} (hp : p '\n' = false) {c : Char} (h : p c = true) :
    c ≠ '\n' := by
  rintro rfl
  rw [hp] at h
  cases h

theorem isFirst_of_isAsciiDigit {c : Char} (h : Text.isAsciiDigit c = true) :
    isFirst c = false := by
  apply Bool.eq_false_iff.mpr
  intro hf
  simp only [isFirst, Text.isNameStart, Text.isAsciiLetter, Text.isAsciiDigit, Bool.or_eq_true,
    Bool.and_eq_true, decide_eq_true_eq, beq_iff_eq, Char.le_def, UInt32.le_iff_toNat_le] at h hf
  rcases hf with ((hf | hf) | rfl) | rfl
  · exact absurd (Nat.le_trans hf.1 h.2) (by decide)
  · exact absurd (Nat.le_trans hf.1 h.2) (by decide)
  · exact absurd h.2 (by decide)
  · exact absurd h.1 (by decide)

theorem isPlain_spec {s : List Char} (h : isPlain s = true) :
    (∃ c, s.head? = some c ∧ isFirst c = true) ∧ '\n' ∉ s := by
  unfold isPlain at h
  split at h
  · next c w ws heq =>
    simp only [Bool.and_eq_true, List.all_eq_true] at h
    obtain ⟨⟨hc, hw⟩, hws⟩ := h
    refine ⟨⟨c, Text.head_of_pieces heq, hc⟩, ?_⟩
    intro hmem
    rcases Text.mem_pieces (p := (· == ' ')) hmem with hp | ⟨u, hu, hmem⟩
    · revert hp
      decide
    · rw [heq] at hu
      rcases List.mem_cons.mp hu with rfl | hu
      · rcases List.mem_cons.mp hmem with rfl | hmem
        · exact ne_newline_of_class (by decide) hc rfl
        · exact ne_newline_of_class (by decide) (hw _ hmem) rfl
      · exact ne_newline_of_class (by decide) ((hws u hu).2 _ hmem) rfl
  · cases h

/-- A text that stands bare is plain up to a line feed that may end it, and not reserved. -/
theorem standsBare_spec {s : String} (h : standsBare s = true) :
    (∃ w, isPlain w = true ∧ (s.toList = w ∨ s.toList = w ++ ['\n'])) ∧
      reserved.contains (lowered s) = false := by
  simp only [standsBare, Bool.and_eq_true, Bool.or_eq_true, Bool.not_eq_true'] at h
  refine ⟨?_, h.2⟩
  rcases h.1 with hp | ⟨hl, hp⟩
  · exact ⟨_, hp, .inl rfl⟩
  · rw [decide_eq_true_eq, List.getLast?_eq_some_iff] at hl
    obtain ⟨w, hsw⟩ := hl
    rw [hsw, List.dropLast_concat] at hp
    exact ⟨w, hp, .inr hsw⟩

end Scalar

namespace Json

theorem scalar_cases (v : Json) :
    (∃ s, v = .str s ∧ Scalar.standsBare s = true ∧ v.scalar.toList = s.toList) ∨
      v.scalar.toList = chars .spaced 0 v := by
  unfold scalar
  split
  · next s =>
    split
    · next hs => exact .inl ⟨s, rfl, hs, rfl⟩
    · refine .inr ?_
      simp [render, chars]
  · refine .inr ?_
    simp [render]

end Json

namespace Scalar

variable {s : String} {r r' : List Char}

/-- A bare text and its line end determine the text: only a text that ends in a line feed is
followed by two. -/
theorem append_inj_of_standsBare (hs : standsBare s = true) {t : List Char} (ht : '\n' ∉ t)
    (hr' : r'.head? ≠ some '\n') (h : s.toList ++ '\n' :: r = t ++ '\n' :: r') :
    s.toList = t ∧ r = r' := by
  obtain ⟨⟨w, hw, hsw⟩, -⟩ := standsBare_spec hs
  have hnl := (isPlain_spec hw).2
  rcases hsw with hsw | hsw
  · rw [hsw] at h ⊢
    have hinj := Text.append_cons_inj hnl ht h
    exact hinj
  -- The text has a line feed at its end, so that the other one would be followed by two.
  · rw [hsw, List.append_assoc, List.singleton_append] at h
    have hinj := Text.append_cons_inj hnl ht h
    simp [← hinj.2] at hr'

theorem standsBare_append_inj {s' : String} (hs : standsBare s = true) (hs' : standsBare s' = true)
    (hr : r.head? ≠ some '\n') (hr' : r'.head? ≠ some '\n')
    (h : s.toList ++ '\n' :: r = s'.toList ++ '\n' :: r') : s = s' ∧ r = r' := by
  obtain ⟨⟨w', hw', hsw'⟩, -⟩ := standsBare_spec hs'
  have hnl' := (isPlain_spec hw').2
  rcases hsw' with hsw' | hsw'
  · rw [hsw'] at h
    have hinj := append_inj_of_standsBare hs hnl' hr' h
    exact ⟨String.toList_inj.mp (hinj.1.trans hsw'.symm), hinj.2⟩
  · obtain ⟨⟨w, hw, hsw⟩, -⟩ := standsBare_spec hs
    have hnl := (isPlain_spec hw).2
    rcases hsw with hsw | hsw
    · rw [hsw, hsw', List.append_assoc, List.singleton_append] at h
      have hinj := Text.append_cons_inj hnl hnl' h
      simp [hinj.2] at hr
    · rw [hsw, hsw', List.append_assoc, List.append_assoc] at h
      have hinj := Text.append_cons_inj hnl hnl' h
      refine ⟨String.toList_inj.mp ?_, ?_⟩
      · rw [hsw, hsw', hinj.1]
      · simpa using hinj.2

/-- A bare text is no word of the language and starts with nothing that other values start with. -/
theorem append_ne_of_standsBare (hs : standsBare s = true) {v : Json} (hv : v.isExact = true)
    (hr' : r'.head? ≠ some '\n') :
    s.toList ++ '\n' :: r ≠ Json.chars .spaced 0 v ++ '\n' :: r' := by
  intro h
  obtain ⟨⟨w, hw, hsw⟩, hreserved⟩ := standsBare_spec hs
  have word (t : String) (ht : '\n' ∉ t.toList) (hres : reserved.contains (lowered t) = true)
      (h : s.toList ++ '\n' :: r = t.toList ++ '\n' :: r') : False := by
    have heq := String.toList_inj.mp (append_inj_of_standsBare hs ht hr' h).1
    subst heq
    rw [hres] at hreserved
    cases hreserved
  obtain ⟨c, hc, hfirst⟩ := (isPlain_spec hw).1
  have hhead : (Json.chars .spaced 0 v ++ '\n' :: r').head? = some c := by
    rw [← h]
    rcases hsw with hsw | hsw
    all_goals
      rw [hsw]
      simp [List.head?_append, hc]
  have start (d : Char) (hd : isFirst d = false) (t : List Char)
      (ht : Json.chars .spaced 0 v = d :: t) : False := by
    rw [ht] at hhead
    simp_all
  -- Words of the language are reserved, and everything else starts with a mark or a digit.
  match v with
  | .null => exact word "null" (by decide) (by decide) h
  | .bool true => exact word "true" (by decide) (by decide) h
  | .bool false => exact word "false" (by decide) (by decide) h
  | .int n =>
    obtain ⟨d, t, hd, hdigit⟩ := Json.intChars_eq_cons n
    refine start d ?_ t (by rw [Json.chars, Json.leafChars, hd] <;> simp)
    rcases hdigit with rfl | hdigit
    · decide
    · exact isFirst_of_isAsciiDigit hdigit
  | .float x => simp [Json.isExact] at hv
  | .str s => exact start '"' (by decide) _ rfl
  | .arr [] => exact start '[' (by decide) _ rfl
  | .arr (_ :: _) => exact start '[' (by decide) _ rfl
  | .obj [] => exact start '{' (by decide) _ rfl
  | .obj (_ :: _) => exact start '{' (by decide) _ rfl

end Scalar

/-- A leaf and its line end are told apart from any other leaf, by their text alone. -/
theorem Json.scalar_append_inj {v v' : Json} (hx : v.isExact = true) (hx' : v'.isExact = true)
    (hw : v.isWritable = true) (hw' : v'.isWritable = true) {r r' : List Char}
    (hr : r.head? ≠ some '\n') (hr' : r'.head? ≠ some '\n')
    (h : v.scalar.toList ++ '\n' :: r = v'.scalar.toList ++ '\n' :: r') : v = v' ∧ r = r' := by
  rcases v.scalar_cases with ⟨s, rfl, hs, hscalar⟩ | hscalar
  · rcases v'.scalar_cases with ⟨s', rfl, hs', hscalar'⟩ | hscalar'
    · rw [hscalar, hscalar'] at h
      have hinj := Scalar.standsBare_append_inj hs hs' hr hr' h
      exact ⟨congrArg Json.str hinj.1, hinj.2⟩
    · rw [hscalar, hscalar'] at h
      exact absurd h (Scalar.append_ne_of_standsBare hs hx' hr')
  · rcases v'.scalar_cases with ⟨s', rfl, hs', hscalar'⟩ | hscalar'
    · rw [hscalar, hscalar'] at h
      exact absurd h.symm (Scalar.append_ne_of_standsBare hs' hx hr)
    · rw [hscalar, hscalar'] at h
      have hinj := Json.chars_append_inj Json.Style.spaced_isReadable hx hx' hw hw' rfl rfl h
      exact ⟨hinj.1, (List.cons.inj hinj.2).2⟩

end HostSnapshot
