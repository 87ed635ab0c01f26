import HostSnapshot.Proofs.Json.Exact
import HostSnapshot.Snapshot.Mapping

namespace HostSnapshot

namespace Json

mutual

def isFinite : Json → Bool
  | float x => !(x.isNaN || x.isInf)
  | arr vs => areFinite vs
  | obj ms => membersFinite ms
  | _ => true

def areFinite : List Json → Bool
  | [] => true
  | v :: vs => isFinite v && areFinite vs

def membersFinite : List (String × Json) → Bool
  | [] => true
  | (_, v) :: ms => isFinite v && membersFinite ms

end

mutual

theorem isFinite_of_isExact : ∀ v : Json, isExact v = true → isFinite v = true
  | null, _ => rfl
  | bool _, _ => rfl
  | int _, _ => rfl
  | str _, _ => rfl
  | arr vs, h => areFinite_of_areExact vs h
  | obj ms, h => membersFinite_of_membersExact ms (Bool.and_eq_true_iff.mp h).2

theorem areFinite_of_areExact : ∀ vs : List Json, areExact vs = true → areFinite vs = true
  | [], _ => rfl
  | v :: vs, h => by
    rw [areExact, Bool.and_eq_true] at h
    rw [areFinite, isFinite_of_isExact v h.1, areFinite_of_areExact vs h.2]
    rfl

theorem membersFinite_of_membersExact :
    ∀ ms : List (String × Json), membersExact ms = true → membersFinite ms = true
  | [], _ => rfl
  | (_, v) :: ms, h => by
    rw [membersExact, Bool.and_eq_true] at h
    rw [membersFinite, isFinite_of_isExact v h.1, membersFinite_of_membersExact ms h.2]
    rfl

end

mutual

theorem shown_of_isFinite : ∀ v : Json, isFinite v = true → shown v = v
  | null, _ => rfl
  | bool _, _ => rfl
  | int _, _ => rfl
  | str _, _ => rfl
  | float x, h => by
    rw [isFinite, Bool.not_eq_true'] at h
    rw [shown, h, if_neg Bool.false_ne_true]
  | arr vs, h => by rw [shown, shownItems_of_areFinite vs h]
  | obj ms, h => by rw [shown, shownMembers_of_membersFinite ms h]

theorem shownItems_of_areFinite : ∀ vs : List Json, areFinite vs = true → shownItems vs = vs
  | [], _ => rfl
  | v :: vs, h => by
    rw [areFinite, Bool.and_eq_true] at h
    rw [shownItems, shown_of_isFinite v h.1, shownItems_of_areFinite vs h.2]

theorem shownMembers_of_membersFinite :
    ∀ ms : List (String × Json), membersFinite ms = true → shownMembers ms = ms
  | [], _ => rfl
  | (_, v) :: ms, h => by
    rw [membersFinite, Bool.and_eq_true] at h
    rw [shownMembers, shown_of_isFinite v h.1, shownMembers_of_membersFinite ms h.2]

end

theorem Members.find?_shownMembers (ms : Members) (key : String) :
    Members.find? (shownMembers ms) key = (ms.find? key).map shown := by
  induction ms with
  | nil => rfl
  | cons m ms ih =>
    obtain ⟨k, v⟩ := m
    rw [shownMembers, find?_cons, find?_cons, ih]
    split <;> rfl

mutual

theorem height_le : ∀ v : Json, height v ≤ nesting v + 1
  | null => Nat.le_refl _
  | bool _ => Nat.le_refl _
  | int _ => Nat.le_refl _
  | str _ => Nat.le_refl _
  | float _ => Nat.le_refl _
  | arr vs => by
    have h := itemHeight_le vs
    rw [height, nesting]
    omega
  | obj ms => by
    have h := memberHeight_le ms
    rw [height, nesting]
    omega

theorem itemHeight_le : ∀ vs : List Json, itemHeight vs ≤ itemNesting vs + 1
  | [] => Nat.zero_le _
  | v :: vs => by
    have hv := height_le v
    have hvs := itemHeight_le vs
    rw [itemHeight, itemNesting]
    omega

theorem memberHeight_le :
    ∀ ms : List (String × Json), memberHeight ms ≤ memberNesting ms + 1
  | [] => Nat.zero_le _
  | (_, v) :: ms => by
    have hv := height_le v
    have hms := memberHeight_le ms
    rw [memberHeight, memberNesting]
    omega

end

end Json

namespace Snapshot

variable {s : Snapshot}

theorem dump_of_isShallow (h : s.isShallow = true) : s.dump = .ok s.mapping := if_pos h

theorem dump_eq_ok_iff {ms : Json.Members} :
    s.dump = .ok ms ↔ s.isShallow = true ∧ ms = s.mapping := by
  unfold dump
  split
  · next h => simp [h, eq_comm]
  · next h => simp [h]

theorem isShallow_of_nesting_le (h : (Json.obj s.system).nesting ≤ maxHeight) :
    s.isShallow = true := by
  rw [Json.nesting] at h
  exact decide_eq_true (Nat.le_trans (Json.memberHeight_le s.system) h)

/-- The facts about the system are shown as they are if their numbers are finite. -/
theorem shownMembers_system (h : (Json.obj s.system).isFinite = true) :
    Json.shownMembers s.system = s.system :=
  Json.shownMembers_of_membersFinite s.system h

end Snapshot

end HostSnapshot
