import HostSnapshot.Json.Basic
import Mathlib.Logic.Relation

namespace HostSnapshot.Json

/-- One edit, somewhere in a value. Members may change places where no key stands twice. -/
inductive Edit (known : List String) : Json → Json → Prop
  | add {before after : Members} {k : String} {v : Json} (hk : k ∉ known) :
      Edit known (.obj (before ++ after)) (.obj (before ++ (k, v) :: after))
  | reorder {ms ms' : Members} (hdistinct : (ms.map Prod.fst).Nodup) (h : ms.Perm ms') :
      Edit known (.obj ms) (.obj ms')
  | item {before after : List Json} {v w : Json} (h : Edit known v w) :
      Edit known (.arr (before ++ v :: after)) (.arr (before ++ w :: after))
  | member {before after : Members} {k : String} {v w : Json} (h : Edit known v w) :
      Edit known (.obj (before ++ (k, v) :: after)) (.obj (before ++ (k, w) :: after))

/-- Values that come of each other by edits, made or undone. -/
abbrev Alike (known : List String) : Json → Json → Prop := Relation.EqvGen (Edit known)

variable {known : List String} {v w : Json} {ms ms' : Members}

/-- What agrees before and after every edit agrees along a row of them, made or undone. -/
theorem congr_of_eqvGen {α : Type} {edit : Json → Json → Prop} {f : Json → α}
    (hf : ∀ v w, edit v w → f v = f w) (h : Relation.EqvGen edit v w) : f v = f w := by
  induction h with
  | rel v w h => exact hf v w h
  | refl v => rfl
  | symm v w _ ih => exact ih.symm
  | trans u v w _ _ ih ih' => exact ih.trans ih'

theorem Members.find?_append (ms ms' : Members) (k : String) :
    Members.find? (ms ++ ms') k = (ms.find? k).or (ms'.find? k) :=
  List.lookup_append

theorem Members.find?_append_cons_self (ms ms' : Members) (k : String) (v : Json) :
    Members.find? (ms ++ (k, v) :: ms') k = (ms.find? k).or (some v) := by
  rw [find?_append, find?_cons, if_pos rfl]

theorem Members.find?_append_cons_of_ne (ms ms' : Members) {k other : String} (v : Json)
    (hne : k ≠ other) :
    Members.find? (ms ++ (other, v) :: ms') k = Members.find? (ms ++ ms') k := by
  rw [find?_append, find?_append, find?_cons, if_neg hne]

theorem Members.find?_of_perm (hdistinct : (ms.map Prod.fst).Nodup) (h : ms.Perm ms')
    (k : String) : ms.find? k = ms'.find? k := by
  induction h with
  | nil => rfl
  | cons m _ ih => rw [find?_cons, find?_cons, ih (List.nodup_cons.mp hdistinct).2]
  | swap m n ms =>
    simp only [List.map_cons, List.nodup_cons, List.mem_cons, not_or] at hdistinct
    rw [find?_cons, find?_cons, find?_cons, find?_cons]
    split
    · next hn => rw [if_neg fun hm => hdistinct.1.1 (hn.symm.trans hm)]
    · rfl
  | trans h _ ih ih' =>
    rw [ih hdistinct, ih' ((h.map Prod.fst).nodup_iff.mp hdistinct)]

/-- An edit leaves a known key without a value or with the same one, or it is one of its value. -/
theorem Edit.find?_cases (h : Edit known (.obj ms) (.obj ms')) {k : String} (hk : k ∈ known) :
    ms.find? k = ms'.find? k ∨
      ∃ v w, ms.find? k = some v ∧ ms'.find? k = some w ∧ Edit known v w := by
  cases h with
  | @add _ _ other _ hother =>
    have hne : k ≠ other := by
      rintro rfl
      exact hother hk
    exact .inl (Members.find?_append_cons_of_ne _ _ _ hne).symm
  | reorder hdistinct hperm => exact .inl (Members.find?_of_perm hdistinct hperm k)
  | @member before _ other v w hvw =>
    rw [Members.find?_append, Members.find?_append, Members.find?_cons, Members.find?_cons]
    cases before.find? k with
    | some _ => exact .inl rfl
    | none =>
      by_cases hother : k = other
      · rw [if_pos hother, if_pos hother]
        exact .inr ⟨v, w, rfl, rfl, hvw⟩
      · rw [if_neg hother, if_neg hother]
        exact .inl rfl

theorem Edit.shapes (h : Edit known v w) :
    (∃ vs ws, v = .arr vs ∧ w = .arr ws) ∨ ∃ ms ms', v = .obj ms ∧ w = .obj ms' := by
  cases h with
  | item => exact .inl ⟨_, _, rfl, rfl⟩
  | _ => exact .inr ⟨_, _, rfl, rfl⟩

theorem Edit.find?_shapes (h : Edit known (.obj ms) (.obj ms')) {k : String} (hk : k ∈ known) :
    ms.find? k = ms'.find? k ∨
      (∃ vs ws, ms.find? k = some (.arr vs) ∧ ms'.find? k = some (.arr ws)) ∨
      ∃ ns ns', ms.find? k = some (.obj ns) ∧ ms'.find? k = some (.obj ns') := by
  rcases h.find?_cases hk with heq | ⟨v, w, hv, hw, hvw⟩
  · exact .inl heq
  · rcases hvw.shapes with ⟨vs, ws, rfl, rfl⟩ | ⟨ns, ns', rfl, rfl⟩
    · exact .inr (.inl ⟨vs, ws, hv, hw⟩)
    · exact .inr (.inr ⟨ns, ns', hv, hw⟩)

end HostSnapshot.Json
