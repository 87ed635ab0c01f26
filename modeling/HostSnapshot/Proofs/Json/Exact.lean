import HostSnapshot.Json.Parser
import HostSnapshot.Json.Printer

namespace HostSnapshot.Json

mutual

/-- Whether a value has no float in it and no object with two members of one key. -/
def isExact : Json → Bool
  | float _ => false
  | arr vs => areExact vs
  | obj ms => decide (ms.map Prod.fst).Nodup && membersExact ms
  | _ => true

def areExact : List Json → Bool
  | [] => true
  | v :: vs => isExact v && areExact vs

def membersExact : List (String × Json) → Bool
  | [] => true
  | (_, v) :: ms => isExact v && membersExact ms

end

mutual

def nesting : Json → Nat
  | arr vs => itemNesting vs + 1
  | obj ms => memberNesting ms + 1
  | _ => 0

def itemNesting : List Json → Nat
  | [] => 0
  | v :: vs => max (nesting v) (itemNesting vs)

def memberNesting : List (String × Json) → Nat
  | [] => 0
  | (_, v) :: ms => max (nesting v) (memberNesting ms)

end

mutual

/-- Whether the integers in a value are short enough to be read once they are written. -/
def Dialect.takes (dialect : Dialect) : Json → Bool
  | int n => dialect.admits (n < 0) false (Number.decimal n.natAbs)
  | arr vs => dialect.takesItems vs
  | obj ms => dialect.takesMembers ms
  | _ => true

def Dialect.takesItems (dialect : Dialect) : List Json → Bool
  | [] => true
  | v :: vs => dialect.takes v && dialect.takesItems vs

def Dialect.takesMembers (dialect : Dialect) : List (String × Json) → Bool
  | [] => true
  | (_, v) :: ms => dialect.takes v && dialect.takesMembers ms

end

mutual

/-- What can be written can be read by a reader that counts the digits only. -/
theorem Dialect.takes_plain : ∀ v : Json, Dialect.plain.takes v = v.isWritable
  | null => rfl
  | bool _ => rfl
  | int _ => rfl
  | float _ => rfl
  | str _ => rfl
  | arr vs => Dialect.takesItems_plain vs
  | obj ms => Dialect.takesMembers_plain ms

theorem Dialect.takesItems_plain : ∀ vs : List Json,
    Dialect.plain.takesItems vs = areWritable vs
  | [] => rfl
  | v :: vs => by
    rw [Dialect.takesItems, areWritable, Dialect.takes_plain v, Dialect.takesItems_plain vs]

theorem Dialect.takesMembers_plain : ∀ ms : List (String × Json),
    Dialect.plain.takesMembers ms = membersWritable ms
  | [] => rfl
  | (_, v) :: ms => by
    rw [Dialect.takesMembers, membersWritable, Dialect.takes_plain v,
      Dialect.takesMembers_plain ms]

end

theorem Members.set_of_notMem {ms : Members} {k : String} (h : k ∉ ms.map Prod.fst) (v : Json) :
    ms.set k v = ms ++ [(k, v)] := by
  induction ms with
  | nil => rfl
  | cons m ms ih =>
    simp only [List.map_cons, List.mem_cons, not_or] at h
    rw [Members.set, if_neg (Ne.symm h.1), ih h.2, List.cons_append]

theorem Members.ofList_of_nodup {ms : List (String × Json)} (h : (ms.map Prod.fst).Nodup) :
    Members.ofList ms = ms := by
  have go (done : Members) (hd : ((done ++ ms).map Prod.fst).Nodup) :
      ms.foldl (fun members m => members.set m.1 m.2) done = done ++ ms := by
    induction ms generalizing done with
    | nil => simp
    | cons m ms ih =>
      obtain ⟨k, v⟩ := m
      have hk : k ∉ done.map Prod.fst := by
        rw [List.map_append, List.nodup_append] at hd
        intro hmem
        exact hd.2.2 k hmem k (by simp) rfl
      rw [List.append_cons] at hd
      simp only [List.foldl_cons, Members.set_of_notMem hk]
      rw [ih ((List.nodup_cons.mp h).2) _ hd, ← List.append_cons]
  exact go [] h

end HostSnapshot.Json
