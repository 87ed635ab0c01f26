import HostSnapshot.Proofs.Query.Paths
import HostSnapshot.Proofs.Snapshot.RoundTrip
import HostSnapshot.Proofs.Traced
import HostSnapshot.Snapshot.Text

namespace HostSnapshot

open Query (Value Answer)

namespace Json

/-- What a value holds in a field: null where it has no such field. Only objects have fields, and
null may be taken for one. -/
def field? (name : String) : Json → Option Json
  | obj ms => some ((Members.find? ms name).getD null)
  | null => some null
  | _ => none

def along? (v : Json) (path : List String) : Option Json :=
  path.foldlM (fun v name => v.field? name) v

/-- The text of a value without parts. Integers beyond those that every double near them can be told
from have none. -/
def plainText? : Json → Option String
  | null => some "null"
  | bool b => some (if b then "true" else "false")
  | int n => if n.natAbs ≤ 2 ^ 53 then some (toString n) else none
  | str s => some s
  | _ => none

end Json

namespace Query

theorem Value.get?_ofMembers (ms : Json.Members) (name : String) :
    Members.get? (ofMembers ms) name = (ms.find? name).map ofJson := by
  induction ms with
  | nil => rw [ofMembers]; rfl
  | cons m ms ih =>
    obtain ⟨k, v⟩ := m
    rw [ofMembers, Json.Members.find?_cons, Members.get?, List.lookup_cons]
    by_cases h : name = k
    · subst h
      rw [beq_self_eq_true, if_pos rfl]
      rfl
    · rw [beq_false_of_ne h, if_neg h]
      exact ih

theorem Value.index_ofJson {v w : Json} {name : String} (h : v.field? name = some w) :
    (ofJson v).index (.text name) = .ok (ofJson w) := by
  cases v with
  | obj ms =>
    cases h
    rw [ofJson, index, get?_ofMembers]
    cases Json.Members.find? ms name with
    | none => rw [Option.map_none, Option.getD_none, Option.getD_none, ofJson]
    | some w => rfl
  | null =>
    cases h
    rw [ofJson, index]
  | _ => cases h

theorem Value.index_ofJson_of_none {v : Json} {name : String} (h : v.field? name = none) :
    ∃ e, (ofJson v).index (.text name) = .error e := by
  cases v with
  | obj ms => cases h
  | null => cases h
  | bool b => rw [ofJson]; exact ⟨_, rfl⟩
  | int n => rw [ofJson]; exact ⟨_, rfl⟩
  | float x =>
    rw [ofJson]
    split <;> exact ⟨_, rfl⟩
  | str s => rw [ofJson]; exact ⟨_, rfl⟩
  | arr vs => rw [ofJson]; exact ⟨_, rfl⟩

theorem Value.along_ofJson {v w : Json} {path : List String} (h : v.along? path = some w) :
    (ofJson v).along path = .ok (ofJson w) := by
  induction path generalizing v with
  | nil =>
    cases h
    rfl
  | cons name path ih =>
    rw [Json.along?, List.foldlM_cons, Option.bind_eq_bind, Option.bind_eq_some_iff] at h
    obtain ⟨u, hu, h⟩ := h
    rw [along, List.foldlM_cons, index_ofJson hu]
    exact ih h

theorem Value.along_ofJson_of_none {v : Json} {path : List String} (h : v.along? path = none) :
    ∃ e, (ofJson v).along path = .error e := by
  induction path generalizing v with
  | nil => cases h
  | cons name path ih =>
    rw [along, List.foldlM_cons]
    cases hu : v.field? name with
    | none =>
      obtain ⟨e, he⟩ := index_ofJson_of_none hu
      rw [he]
      exact ⟨e, rfl⟩
    | some u =>
      rw [Json.along?, List.foldlM_cons, hu] at h
      rw [index_ofJson hu]
      exact ih h

theorem Numeral.writtenInt?_ofInt {n : Int} (h : n.natAbs ≤ 2 ^ 53) :
    (Numeral.ofInt n).writtenInt? = some n := by
  have hbound : n.natAbs ≤ 9007199254740992 := h
  have hsign : (if n < 0 then -(n.natAbs : Int) else n.natAbs) = n := by
    split <;> omega
  simp only [ofInt, ofDecimal, writtenInt?, Number.Decimal.ofInt, Option.bind_some, hbound,
    and_self, if_true, decide_eq_true_eq, hsign]

end Query

theorem Json.ofList_intChars (n : Int) : String.ofList (intChars n) = toString n := by
  rw [← String.toList_inj, String.toList_ofList, Int.toString_eq_repr, Int.repr_eq_if, intChars,
    Number.decimal]
  by_cases h : n < 0
  · have habs : (-n).toNat = n.natAbs := by omega
    rw [if_pos h, if_neg (by omega), habs, String.toList_append, Nat.toList_repr]
    rfl
  · have habs : n.toNat = n.natAbs := by omega
    rw [if_neg h, if_pos (by omega), habs, Nat.toList_repr]

/-- A value without parts comes back from a query and is written as its text. -/
theorem Json.answer_toJson {v : Json} {text : String} (h : v.plainText? = some text) :
    (Value.ofJson v).toJson.answer = text := by
  cases v with
  | null =>
    cases h
    rw [Value.ofJson, Value.toJson]
    rfl
  | bool b =>
    cases h
    rw [Value.ofJson, Value.toJson]
    cases b <;> rfl
  | int n =>
    rw [plainText?, Option.ite_none_right_eq_some, Option.some.injEq] at h
    obtain ⟨hn, rfl⟩ := h
    rw [Value.ofJson, Value.toJson, Value.numberJson, Query.Numeral.writtenInt?_ofInt hn,
      ← ofList_intChars]
    rfl
  | str s =>
    cases h
    rw [Value.ofJson, Value.toJson]
    rfl
  | _ => cases h

theorem Json.exists_mapM_along {v : Json} {text : List String → String} {paths : List (List String)}
    (h : ∀ path ∈ paths, ∃ w, v.along? path = some w ∧ w.plainText? = some (text path)) :
    ∃ ws, paths.mapM (Value.ofJson v).along = .ok ws ∧
      (ws.map Value.toJson).map answer = paths.map text := by
  induction paths with
  | nil => exact ⟨[], rfl, rfl⟩
  | cons path paths ih =>
    rw [List.forall_mem_cons] at h
    obtain ⟨⟨w, hw, htext⟩, hpaths⟩ := h
    obtain ⟨ws, hws, htexts⟩ := ih hpaths
    refine ⟨Value.ofJson w :: ws, ?_, ?_⟩
    · rw [List.mapM_cons, Value.along_ofJson hw, hws]
      rfl
    · rw [List.map_cons, List.map_cons, List.map_cons, htexts, answer_toJson htext]

theorem Json.exists_mapM_along_error {v : Json} {paths : List (List String)}
    (h : ∃ path ∈ paths, v.along? path = none) :
    ∃ e, paths.mapM (Value.ofJson v).along = .error e := by
  induction paths with
  | nil => simp at h
  | cons path paths ih =>
    rw [List.mapM_cons]
    simp only [List.mem_cons, exists_eq_or_imp] at h
    cases hpath : (Value.ofJson v).along path with
    | error e => exact ⟨e, rfl⟩
    | ok w =>
      have hpaths : ∃ path ∈ paths, v.along? path = none := by
        rcases h with h | h
        · obtain ⟨e, he⟩ := Value.along_ofJson_of_none h
          rw [hpath] at he
          cases he
        · exact h
      obtain ⟨e, he⟩ := ih hpaths
      rw [he]
      exact ⟨e, rfl⟩

namespace Snapshot

def input (s : Snapshot) : Except String Json := (s.dump.map Json.obj).mapError Fault.message

theorem input_of_isShallow {s : Snapshot} (h : s.isShallow = true) :
    s.input = .ok (.obj s.mapping) := by
  rw [input, dump_of_isShallow h]
  rfl

theorem outcome_query_of_ok {s : Snapshot} {path : String} {vs : List Json}
    (h : Query.run (queryExpression path) s.input = .ok vs) :
    (s.query path).outcome = .ok (String.join (vs.map Json.answer)) := by
  rw [input] at h
  unfold query
  dsimp only
  rw [h]
  exact Traced.outcome_bind_of_ok (Traced.outcome_log _ _ _) _

theorem outcome_query_of_error {s : Snapshot} {path : String} {problem : QueryProblem}
    (h : Query.run (queryExpression path) s.input = .error problem) :
    (s.query path).outcome = .error (.query (queryExpression path) problem) := by
  rw [input] at h
  unfold query
  dsimp only
  rw [h]
  rfl

/-- A query for some fields is answered with the texts of what the snapshot holds there, in order
and with nothing between them. If it asks for a field of a value that has none, it is not answered,
and neither is it if the snapshot nests too deeply. -/
theorem query_paths {s : Snapshot} (hs : (Json.obj s.mapping).isWritable = true)
    {paths : List (List String)} (hpaths : paths ≠ [])
    (hnames : ∀ path ∈ paths, path ≠ [] ∧ ∀ name ∈ path, Query.IsName name) :
    (∀ text : List String → String, s.isShallow = true →
      (∀ path ∈ paths, ∃ v, (Json.obj s.mapping).along? path = some v ∧
        v.plainText? = some (text path)) →
      (s.query (Query.pathsText paths)).outcome = .ok (String.join (paths.map text))) ∧
    ((∃ path ∈ paths, (Json.obj s.mapping).along? path = none) ∨ s.isShallow = false →
      ∃ reason, (s.query (Query.pathsText paths)).outcome =
        .error (.query ("." ++ Query.pathsText paths) (.run reason))) := by
  have hne (path) (h : path ∈ paths) := (hnames path h).1
  have hnames (path) (h : path ∈ paths) := (hnames path h).2
  have hrun := Query.run_paths hs hpaths hne hnames
  constructor
  · intro text hshallow h
    obtain ⟨ws, hws, htexts⟩ := Json.exists_mapM_along h
    rw [← input_of_isShallow hshallow, hws] at hrun
    rw [outcome_query_of_ok hrun, htexts]
  · intro h
    -- There is no input if the facts nest too deeply; otherwise some path leads nowhere.
    cases hinput : s.input with
    | error reason =>
      have hrefused := Query.run_paths_of_error hpaths hne hnames reason
      exact ⟨_, outcome_query_of_error (hinput ▸ hrefused)⟩
    | ok v =>
      have hshallow : s.isShallow = true := by
        by_contra hdeep
        rw [input, dump, if_neg hdeep] at hinput
        cases hinput
      obtain ⟨e, he⟩ := Json.exists_mapM_along_error
        (h.resolve_right fun hdeep => Bool.false_ne_true (hdeep.symm.trans hshallow))
      rw [← input_of_isShallow hshallow, he] at hrun
      exact ⟨_, outcome_query_of_error hrun⟩

theorem sample_query :
    (sample.query "oem.size_bytes, .oem.mount_point, .oem.read_only, .system.node.name.x").outcome =
        .ok "512/oemtruenull" ∧
      ∃ reason, (sample.query "boot, .boot.name").outcome =
        .error (.query ".boot, .boot.name" (.run reason)) := by
  have hwritable : (Json.obj sample.mapping).isWritable = true := by decide
  obtain ⟨hanswer, -⟩ := @query_paths sample hwritable [["oem", "size_bytes"],
    ["oem", "mount_point"], ["oem", "read_only"], ["system", "node", "name", "x"]] (by simp)
    (by decide)
  obtain ⟨-, hrefuse⟩ := @query_paths sample hwritable [["boot"], ["boot", "name"]] (by simp)
    (by decide)
  constructor
  · apply hanswer (fun path =>
      (((Json.obj sample.mapping).along? path).bind Json.plainText?).getD "") rfl
    simp only [List.forall_mem_cons]
    exact ⟨⟨_, rfl, rfl⟩, ⟨_, rfl, rfl⟩, ⟨_, rfl, rfl⟩, ⟨_, rfl, rfl⟩, by simp⟩
  · exact hrefuse (.inl ⟨["boot", "name"], by simp, rfl⟩)

end Snapshot

end HostSnapshot
