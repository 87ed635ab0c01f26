import HostSnapshot.Json.Field
import HostSnapshot.Proofs.Json.Integer

namespace HostSnapshot.Json

variable {α : Type}

inductive IsFlag : Json → Bool → Prop
  | bool (b : Bool) : IsFlag (.bool b) b
  | zero : IsFlag (.int 0) false
  | one : IsFlag (.int 1) true
  | float {x : Float} {n : Int} {b : Bool} (h : Number.integer? x = some n)
      (hb : IsFlag (.int n) b) : IsFlag (.float x) b
  | no {s : String} (h : lowered s ∈ ["0", "off", "f", "false", "n", "no"]) : IsFlag (.str s) false
  | yes {s : String} (h : lowered s ∈ ["1", "on", "t", "true", "y", "yes"]) : IsFlag (.str s) true

/-- The values that are read as an integer. A float has to be whole and to lie within the machine
words. -/
inductive IsInteger : Json → Int → Prop
  | int (n : Int) : IsInteger (.int n) n
  | no : IsInteger (.bool false) 0
  | yes : IsInteger (.bool true) 1
  | float {x : Float} {n : Int} (hfinite : x.isNaN = false ∧ x.isInf = false)
      (h : Number.integer? x = some n) (hlow : -wordBound < n) (hhigh : n < wordBound) :
      IsInteger (.float x) n
  | text {s : String} {n : Int} (h : Integer.Writes s.toList n) : IsInteger (.str s) n

inductive IsText : Json → String → Prop
  | str (s : String) : IsText (.str s) s

theorem readText_eq_ok_iff {v : Json} {s : String} : readText v = .ok s ↔ IsText v s := by
  constructor
  · intro h
    cases v with
    | str t =>
      cases h
      exact .str _
    | _ => cases h
  · rintro ⟨⟩
    rfl

theorem flagOfInt_eq_ok_iff {isWord : Bool} {n : Int} {b : Bool} :
    flagOfInt isWord n = .ok b ↔ IsFlag (.int n) b := by
  constructor
  · intro h
    unfold flagOfInt at h
    split at h
    · next hn =>
      cases h
      exact hn ▸ .zero
    · split at h
      · next hn =>
        cases h
        exact hn ▸ .one
      · cases h
  · rintro ⟨⟩ <;> rfl

theorem flagOfText?_eq_some_iff {s : String} {b : Bool} :
    flagOfText? s = some b ↔ IsFlag (.str s) b := by
  unfold flagOfText?
  simp only [List.contains_iff_mem]
  constructor
  · intro h
    split at h
    · next hno =>
      cases h
      exact .no hno
    · split at h
      · next hyes =>
        cases h
        exact .yes hyes
      · cases h
  · rintro (_ | _ | _ | _ | hno | hyes)
    · rw [if_pos hno]
    · have hdisjoint : ∀ t ∈ ["1", "on", "t", "true", "y", "yes"],
          t ∉ ["0", "off", "f", "false", "n", "no"] := by decide
      rw [if_neg (hdisjoint _ hyes), if_pos hyes]

theorem readFlag_eq_ok_iff {v : Json} {b : Bool} : readFlag v = .ok b ↔ IsFlag v b := by
  cases v with
  | bool c =>
    constructor
    · rintro ⟨⟩
      exact .bool b
    · rintro ⟨⟩
      rfl
  | str s =>
    rw [← flagOfText?_eq_some_iff, readFlag]
    cases flagOfText? s <;> simp
  | int n => exact flagOfInt_eq_ok_iff
  | float x =>
    constructor
    · intro h
      rw [readFlag] at h
      split at h
      · next n hn => exact .float hn (flagOfInt_eq_ok_iff.mp h)
      · cases h
    · rintro (_ | _ | _ | ⟨hn, hb⟩)
      rw [readFlag, hn]
      exact flagOfInt_eq_ok_iff.mpr hb
  | _ =>
    constructor
    · rintro ⟨⟩
    · rintro ⟨⟩

theorem readInteger_float_eq_ok_iff {x : Float} {n : Int} :
    readInteger (.float x) = .ok n ↔ IsInteger (.float x) n := by
  constructor
  · intro h
    rw [readInteger] at h
    split at h
    · cases h
    · next hfinite =>
      split at h
      · cases h
      · next m hm =>
        split at h
        · next hfits =>
          cases h
          simp only [insideWord, Bool.and_eq_true, decide_eq_true_eq] at hfits
          exact .float (by simpa using hfinite) hm hfits.1 hfits.2
        · cases h
  · rintro (_ | _ | _ | ⟨hfinite, hm, hlow, hhigh⟩)
    have hnumber : ¬ (x.isNaN || x.isInf) = true := by rw [hfinite.1, hfinite.2]; decide
    have hfits : insideWord _ = true :=
      Bool.and_eq_true_iff.mpr ⟨decide_eq_true hlow, decide_eq_true hhigh⟩
    rw [readInteger, if_neg hnumber, hm]
    dsimp only
    rw [if_pos hfits]

theorem readInteger_eq_ok_iff {v : Json} {n : Int} : readInteger v = .ok n ↔ IsInteger v n := by
  cases v with
  | bool b =>
    constructor
    · rintro ⟨⟩
      cases b
      · exact .no
      · exact .yes
    · rintro ⟨⟩ <;> rfl
  | int m =>
    constructor
    · rintro ⟨⟩
      exact .int n
    · rintro ⟨⟩
      rfl
  | str s =>
    rw [readInteger, Integer.ofText_eq_ok_iff]
    constructor
    · exact .text
    · rintro ⟨⟩
      assumption
  | float x => exact readInteger_float_eq_ok_iff
  | _ =>
    constructor
    · rintro ⟨⟩
    · rintro ⟨⟩

theorem readNat_eq_ok_iff {v : Json} {n : Nat} : readNat v = .ok n ↔ IsInteger v n := by
  rw [← readInteger_eq_ok_iff, readNat]
  cases readInteger v with
  | error p => simp [bind, Except.bind]
  | ok m =>
    change (if m < 0 then Except.error Problem.negative else .ok m.toNat) = .ok n ↔ _
    rw [Except.ok.injEq]
    split
    · next hm =>
      constructor
      · rintro ⟨⟩
      · omega
    · next hm =>
      rw [Except.ok.injEq]
      omega

/-- What a field has where its keys are tried in order: what stands under the first key that is
there, or the default where none is. -/
inductive Members.Reads (ms : Members) (keys : List String) (R : Json → α → Prop) (default : α) :
    α → Prop
  | missing (h : ∀ k ∈ keys, ms.find? k = none) : Reads ms keys R default default
  | there {before after : List String} {k : String} {v : Json} {a : α}
      (hkeys : keys = before ++ k :: after) (hbefore : ∀ j ∈ before, ms.find? j = none)
      (hv : ms.find? k = some v) (ha : R v a) : Reads ms keys R default a

theorem Members.reads_singleton_iff {ms : Members} {k : String} {R : Json → α → Prop}
    {default a : α} : ms.Reads [k] R default a ↔
      ms.find? k = none ∧ a = default ∨ ∃ v, ms.find? k = some v ∧ R v a := by
  constructor
  · intro h
    cases h with
    | missing hnone => exact .inl ⟨hnone k List.mem_cons_self, rfl⟩
    | @there before _ _ v _ hkeys _ hv ha =>
      obtain rfl : before = [] := by
        cases before with
        | nil => rfl
        | cons j before => simp at hkeys
      cases hkeys
      exact .inr ⟨v, hv, ha⟩
  · rintro (⟨hnone, rfl⟩ | ⟨v, hv, ha⟩)
    · exact .missing (by simpa using hnone)
    · exact .there (List.nil_append [k]).symm (by simp) hv ha

theorem Members.first?_eq_some_iff {ms : Members} {keys : List String} {k : String} {v : Json} :
    ms.first? keys = some (k, v) ↔ ∃ before after, keys = before ++ k :: after ∧
      (∀ j ∈ before, ms.find? j = none) ∧ ms.find? k = some v := by
  unfold Members.first?
  rw [List.findSome?_eq_some_iff]
  simp only [Option.map_eq_some_iff, Option.map_eq_none_iff, Prod.mk.injEq]
  constructor
  · rintro ⟨before, _, after, hkeys, ⟨_, hv, rfl, rfl⟩, hbefore⟩
    exact ⟨before, after, hkeys, hbefore, hv⟩
  · rintro ⟨before, after, hkeys, hbefore, hv⟩
    exact ⟨before, k, after, hkeys, ⟨v, hv, rfl, rfl⟩, hbefore⟩

theorem Members.first?_eq_none_iff {ms : Members} {keys : List String} :
    ms.first? keys = none ↔ ∀ k ∈ keys, ms.find? k = none := by
  simp [Members.first?]

theorem Members.field_eq_iff {ms : Members} {keys : List String} {read : Json → Except Problem α}
    {R : Json → α → Prop} (h : ∀ v a, read v = .ok a ↔ R v a) {default a : α} :
    ms.field keys read default = (a, []) ↔ ms.Reads keys R default a := by
  unfold Members.field
  constructor
  · intro hfield
    split at hfield
    · next hnone =>
      cases hfield
      exact .missing (first?_eq_none_iff.mp hnone)
    · next k v hsome =>
      obtain ⟨before, after, hkeys, hbefore, hv⟩ := first?_eq_some_iff.mp hsome
      split at hfield
      · next b hread =>
        cases hfield
        exact .there hkeys hbefore hv ((h v a).mp hread)
      · simp at hfield
  · rintro (hnone | ⟨hkeys, hbefore, hv, ha⟩)
    · rw [first?_eq_none_iff.mpr hnone]
    · rw [first?_eq_some_iff.mpr ⟨_, _, hkeys, hbefore, hv⟩]
      dsimp only
      rw [(h _ _).mpr ha]

theorem Members.field_congr {ms ms' : Members} {keys : List String}
    (h : ∀ k ∈ keys, ms.find? k = ms'.find? k) {read : Json → Except Problem α} {default : α} :
    ms.field keys read default = ms'.field keys read default := by
  have hfirst : ms.first? keys = ms'.first? keys := by
    unfold Members.first?
    induction keys with
    | nil => rfl
    | cons k keys ih =>
      rw [List.forall_mem_cons] at h
      rw [List.findSome?_cons, List.findSome?_cons, h.1, ih h.2]
  unfold Members.field
  rw [hfirst]

theorem Members.problem_of_mem_field {ms : Members} {keys : List String}
    {read : Json → Except Problem α} {default : α} {i : Issue}
    (h : i ∈ (ms.field keys read default).2) : ∃ v, read v = .error i.problem := by
  unfold Members.field at h
  split at h
  · cases h
  · next v _ =>
    split at h
    · cases h
    · next p hp =>
      obtain rfl := List.mem_singleton.mp h
      exact ⟨v, hp⟩

theorem readText_ne_absentWithData (v : Json) : readText v ≠ .error .absentWithData := by
  intro h
  cases v <;> cases h

theorem flagOfInt_ne_absentWithData (isWord : Bool) (n : Int) :
    flagOfInt isWord n ≠ .error .absentWithData := by
  unfold flagOfInt
  split_ifs <;> simp

theorem readFlag_ne_absentWithData (v : Json) : readFlag v ≠ .error .absentWithData := by
  intro h
  cases v with
  | str s =>
    rw [readFlag] at h
    split at h <;> cases h
  | int n => exact flagOfInt_ne_absentWithData _ n h
  | float x =>
    rw [readFlag] at h
    split at h
    · exact flagOfInt_ne_absentWithData _ _ h
    · cases h
  | _ => cases h

theorem readInteger_ne_absentWithData (v : Json) : readInteger v ≠ .error .absentWithData := by
  intro h
  cases v with
  | str s => rcases Integer.ofText_eq_error h with hp | hp <;> cases hp
  | float x =>
    rw [readInteger] at h
    split at h
    · cases h
    · split at h
      · cases h
      · split at h <;> cases h
  | _ => cases h

theorem readNat_ne_absentWithData (v : Json) : readNat v ≠ .error .absentWithData := by
  intro h
  unfold readNat at h
  cases hn : readInteger v with
  | error p =>
    rw [hn] at h
    cases h
    exact readInteger_ne_absentWithData v hn
  | ok n =>
    rw [hn] at h
    change (if n < 0 then Except.error Problem.negative else .ok n.toNat) = _ at h
    split at h <;> cases h

/-- Whether a value counts as true: all do but null, zeros and what is empty. -/
def isTruthy : Json → Bool
  | null => false
  | bool b => b
  | int n => n ≠ 0
  | float x => x != 0
  | str s => s ≠ ""
  | arr vs => !vs.isEmpty
  | obj ms => !ms.isEmpty

end HostSnapshot.Json
