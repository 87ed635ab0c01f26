import HostSnapshot.Proofs.Mounts.Table

namespace HostSnapshot.Mounts

/-- A line with four fields at least, of which the first is a device as the kernel writes it. -/
inductive Tells (device : String) : Mount → List Char → Prop
  | fields {line written point type options : List Char} {rest : List (List Char)}
      (hwords : Text.words line = written :: point :: type :: options :: rest)
      (hdevice : String.ofList (unescape written) = device) :
      Tells device ⟨String.ofList (unescape point),
        (Text.pieces (· == ',') options).contains ['r', 'o']⟩ line

/-- What the lines of a table tell of a device first; what they do not tell of is not mounted. -/
inductive TellsFirst (device : String) : Mount → List (List Char) → Prop
  | there {above below : List (List Char)} {line : List Char} {mount : Mount}
      (habove : ∀ l ∈ above, ∀ m, ¬ Tells device m l) (h : Tells device mount line) :
      TellsFirst device mount (above ++ line :: below)
  | missing {lines : List (List Char)} (h : ∀ l ∈ lines, ∀ m, ¬ Tells device m l) :
      TellsFirst device ⟨"", false⟩ lines

variable {device : String} {mount : Mount} {line : List Char} {lines : List (List Char)}

theorem ofLine?_eq_some_iff : ofLine? line = some (device, mount) ↔ Tells device mount line := by
  constructor
  · intro h
    unfold ofLine? at h
    split at h
    · next hwords =>
      cases h
      exact .fields hwords rfl
    · cases h
  · rintro ⟨hwords, rfl⟩
    rw [ofLine?, hwords]

theorem ofLine?_fst_ne (h : ∀ m, ¬ Tells device m line) :
    (ofLine? line).map Prod.fst ≠ some device := by
  intro hfst
  obtain ⟨⟨other, m⟩, hread, rfl⟩ := Option.map_eq_some_iff.mp hfst
  exact h m (ofLine?_eq_some_iff.mp hread)

theorem lookup_ofText_of_tells {table : List Char} {above below : List (List Char)}
    (hlines : Text.lines table = above ++ line :: below)
    (habove : ∀ l ∈ above, ∀ m, ¬ Tells device m l) (h : Tells device mount line) :
    (ofText table).lookup device = some mount := by
  rw [ofText, lookup_ofEntries, hlines, List.filterMap_append, List.lookup_append,
    lookup_filterMap_eq_none fun l hl => ofLine?_fst_ne (habove l hl), Option.none_or,
    List.filterMap_cons, ofLine?_eq_some_iff.mpr h]
  exact List.lookup_cons_self

/-- A line that is not about a device may come before those that are. -/
theorem TellsFirst.cons (hline : ∀ m, ¬ Tells device m line) (h : TellsFirst device mount lines) :
    TellsFirst device mount (line :: lines) := by
  cases h with
  | there habove h =>
    exact @TellsFirst.there _ (line :: _) _ _ _ (List.forall_mem_cons.mpr ⟨hline, habove⟩) h
  | missing h => exact .missing (List.forall_mem_cons.mpr ⟨hline, h⟩)

theorem tellsFirst_lookup (device : String) (lines : List (List Char)) :
    TellsFirst device (((lines.filterMap ofLine?).lookup device).getD ⟨"", false⟩) lines := by
  -- On the lines: one about another device, or about none, is skipped.
  induction lines with
  | nil => exact .missing (by simp)
  | cons line lines ih =>
    rw [List.filterMap_cons]
    cases hline : ofLine? line with
    | none =>
      apply TellsFirst.cons _ ih
      intro m hm
      rw [ofLine?_eq_some_iff.mpr hm] at hline
      cases hline
    | some entry =>
      obtain ⟨other, mount⟩ := entry
      by_cases hother : device = other
      · subst hother
        dsimp only
        rw [List.lookup_cons_self]
        exact @TellsFirst.there _ [] _ _ _ (by simp) (ofLine?_eq_some_iff.mp hline)
      · have hskip : ((other, mount) :: lines.filterMap ofLine?).lookup device =
            (lines.filterMap ofLine?).lookup device := by
          rw [List.lookup_cons, beq_false_of_ne hother]
        dsimp only
        rw [hskip]
        apply TellsFirst.cons _ ih
        intro m hm
        rw [ofLine?_eq_some_iff.mpr hm] at hline
        cases hline
        exact hother rfl

/-- A table is read as what its lines tell first of each device. -/
theorem tellsFirst_ofText (device : String) (table : List Char) :
    TellsFirst device (((ofText table).lookup device).getD ⟨"", false⟩) (Text.lines table) := by
  rw [ofText, lookup_ofEntries]
  exact tellsFirst_lookup device (Text.lines table)

end HostSnapshot.Mounts
