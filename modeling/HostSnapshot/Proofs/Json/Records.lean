import HostSnapshot.Proofs.Json.Edit
import HostSnapshot.Tool

namespace HostSnapshot.Json

variable {α : Type}

/-- The text that an object has under a key; null and nothing are read as the empty text. -/
inductive Members.Says (ms : Members) (key : String) : String → Prop
  | missing (h : ms.find? key = none) : Says ms key ""
  | null (h : ms.find? key = some .null) : Says ms key ""
  | text {s : String} (h : ms.find? key = some (.str s)) : Says ms key s

theorem Members.optionalText?_eq_some_iff {ms : Members} {key s : String} :
    ms.optionalText? key = some s ↔ ms.Says key s := by
  unfold optionalText?
  constructor
  · intro h
    split at h
    · next hnone =>
      cases h
      exact .missing hnone
    · next hnull =>
      cases h
      exact .null hnull
    · next htext =>
      cases h
      exact .text htext
    · cases h
  · rintro (h | h | h) <;> rw [h]

def readRecord? (read : Members → Option α) : Json → Option α
  | .obj ms => read ms
  | _ => none

theorem readRecords?_of_items {read : Members → Option α} {key : String} {ms : Members}
    {items : List Json} (h : ms.find? key = some (.arr items)) :
    readRecords? key read (.obj ms) = items.mapM (readRecord? read) := by
  unfold readRecords?
  dsimp only
  rw [h]
  rfl

theorem mapM_eq_singleton_iff {β : Type} {f : β → Option α} {bs : List β} {a : α} :
    bs.mapM f = some [a] ↔ ∃ b, bs = [b] ∧ f b = some a := by
  match bs with
  | [] => simp
  | [b] => simp [Option.bind_eq_some_iff]
  | b :: c :: bs =>
    constructor
    · intro h
      simp [Option.bind_eq_some_iff] at h
    · rintro ⟨_, ⟨⟩, _⟩

/-- One record is read from an object that has it as the one item of its list. -/
theorem readRecords?_eq_singleton_iff {read : Members → Option α} {key : String} {v : Json}
    {a : α} : readRecords? key read v = some [a] ↔ ∃ ms fields : Members,
      v = .obj ms ∧ ms.find? key = some (.arr [.obj fields]) ∧ read fields = some a := by
  constructor
  · intro h
    cases v with
    | obj ms =>
      cases hlist : Members.find? ms key with
      | none => simp [readRecords?, hlist] at h
      | some list =>
        cases list with
        | arr items =>
          rw [readRecords?_of_items hlist, mapM_eq_singleton_iff] at h
          obtain ⟨item, rfl, hitem⟩ := h
          cases item with
          | obj fields => exact ⟨ms, fields, rfl, hlist, hitem⟩
          | _ => cases hitem
        | _ => simp [readRecords?, hlist] at h
    | _ => cases h
  · rintro ⟨ms, fields, rfl, hlist, hread⟩
    rw [readRecords?_of_items hlist, mapM_eq_singleton_iff]
    exact ⟨_, rfl, hread⟩

theorem bind_readRecords?_eq_singleton_iff {read : Members → Option α} {key output : String}
    {a : α} : ((ofOutput? output).bind fun v => readRecords? key read v) = some [a] ↔
      ∃ ms fields : Members, ofOutput? output = some (.obj ms) ∧
        ms.find? key = some (.arr [.obj fields]) ∧ read fields = some a := by
  cases ofOutput? output with
  | none => simp
  | some v =>
    rw [Option.bind_some, readRecords?_eq_singleton_iff]
    simp only [Option.some.injEq]

variable {known : List String} {v w : Json} {ms ms' : Members}

theorem Edit.optionalText?_eq (h : Edit known (.obj ms) (.obj ms')) {key : String}
    (hkey : key ∈ known) : ms.optionalText? key = ms'.optionalText? key := by
  unfold Members.optionalText?
  rcases h.find?_shapes hkey with heq | ⟨_, _, hv, hw⟩ | ⟨_, _, hv, hw⟩
  · rw [heq]
  · rw [hv, hw]
  · rw [hv, hw]

section Records

variable {read : Members → Option α}
  (hread : ∀ ms ms', Edit known (.obj ms) (.obj ms') → read ms = read ms')

include hread

theorem Edit.readRecord?_eq (h : Edit known v w) : readRecord? read v = readRecord? read w := by
  rcases h.shapes with ⟨_, _, rfl, rfl⟩ | ⟨ms, ms', rfl, rfl⟩
  · rfl
  · exact hread ms ms' h

/-- An edit is not seen in a list of records that is under a known key, if it is not seen in any
record. -/
theorem Edit.readRecords?_eq {key : String} (hkey : key ∈ known) (h : Edit known v w) :
    readRecords? key read v = readRecords? key read w := by
  rcases h.shapes with ⟨_, _, rfl, rfl⟩ | ⟨ms, ms', rfl, rfl⟩
  · rfl
  rcases h.find?_cases hkey with heq | ⟨v, w, hv, hw, hvw⟩
  · unfold readRecords?
    dsimp only
    rw [heq]
  · cases hvw with
    | @item before after v w hvw =>
      rw [readRecords?_of_items hv, readRecords?_of_items hw, List.mapM_append, List.mapM_append,
        List.mapM_cons, List.mapM_cons, hvw.readRecord?_eq hread]
    | _ =>
      unfold readRecords?
      dsimp only
      rw [hv, hw]

end Records

end HostSnapshot.Json
