import HostSnapshot.Proofs.Query.Spelling
import HostSnapshot.Query.Evaluate

namespace HostSnapshot.Query

namespace Results

variable {α : Type}

theorem fold_collect (r : Results α) (as : List α) :
    r.fold (fun as a => .ok (a :: as)) as = r.toList.map (·.reverse ++ as) := by
  unfold toList
  induction r generalizing as with
  | done => rfl
  | one a => rfl
  | stop s => rfl
  | emit a rest ih =>
    simp only [fold]
    rw [ih () (a :: as), ih () [a]]
    cases (rest ()).fold (fun as a => Except.ok (a :: as)) [] with
    | error s => rfl
    | ok bs => simp [Except.map]

theorem toList_emit (a : α) (rest : Unit → Results α) :
    (emit a rest).toList = (rest ()).toList.map (a :: ·) := by
  rw [toList, fold]
  dsimp only
  rw [fold_collect]
  cases (rest ()).toList with
  | error s => rfl
  | ok bs => simp [Except.map]

theorem toList_append_of_ok {r : Results α} {as : List α} (h : r.toList = .ok as)
    (next : Unit → Results α) : (r.append next).toList = (next ()).toList.map (as ++ ·) := by
  induction r generalizing as with
  | done =>
    cases h
    exact (congrFun Except.map_id (next ()).toList).symm
  | one a =>
    cases h
    exact toList_emit a next
  | stop s => cases h
  | emit a rest ih =>
    rw [toList_emit] at h
    rw [append, toList_emit]
    cases hrest : (rest ()).toList with
    | error s =>
      rw [hrest] at h
      cases h
    | ok bs =>
      rw [hrest] at h
      cases h
      rw [ih () hrest]
      cases (next ()).toList <;> rfl

/-- After an error nothing else counts. -/
theorem toList_append_of_error {r : Results α} {s : Stop} (h : r.toList = .error s)
    (next : Unit → Results α) : (r.append next).toList = .error s := by
  induction r with
  | done => cases h
  | one a => cases h
  | stop s => exact h
  | emit a rest ih =>
    rw [toList_emit] at h
    rw [append, toList_emit]
    cases hrest : (rest ()).toList with
    | error s =>
      rw [hrest] at h
      cases h
      rw [ih () hrest]
      rfl
    | ok bs =>
      rw [hrest] at h
      cases h

end Results

/-- What a path of fields selects from a value. -/
def Value.along (v : Value) (path : List String) : Answer Value :=
  path.foldlM (fun v name => v.index (.text name)) v

theorem Item.index_ofValue (v key : Value) :
    (Item.ofValue v).index false key = .ofAnswer ((v.index key).map Item.ofValue) := by
  have hpath : ¬ (!(Item.ofValue v).isOnPath) = true := by simp [isOnPath, ofValue]
  rw [index, if_neg hpath]
  dsimp only [ofValue]
  cases v.index key <;> rfl

namespace Expr

variable (call : Env → Expr → Item → Results Item) (level : Nat) (env : Env)

theorem evaluate_field (e : Expr) (name : String) (x : Item) :
    evaluate call level (e.field name false) env x =
      (evaluate call level e env x).bind (Item.index false (.text name)) := rfl

theorem evaluate_along {e : Expr} {x : Item} {a : Answer Value}
    (h : evaluate call level e env x = .ofAnswer (a.map Item.ofValue)) (path : List String) :
    evaluate call level (e.along path) env x =
      .ofAnswer ((a >>= (·.along path)).map Item.ofValue) := by
  induction path generalizing e a with
  | nil =>
    rw [along, List.foldl_nil, h]
    cases a <;> rfl
  | cons name path ih =>
    have hfield : evaluate call level (e.field name false) env x =
        .ofAnswer ((a >>= (·.index (.text name))).map Item.ofValue) := by
      rw [evaluate_field, h]
      cases a with
      | error e => rfl
      | ok v => exact Item.index_ofValue v (.text name)
    have hrest := ih hfield
    rw [along, List.foldl_cons, ← along, hrest, bind_assoc]
    rfl

theorem evaluate_path (v : Value) (path : List String) :
    evaluate call level (identity.along path) env (.ofValue v) =
      .ofAnswer ((v.along path).map Item.ofValue) :=
  evaluate_along call level env (e := identity) (a := .ok v) rfl path

/-- What was gathered before an error does not count. -/
def gathered (a : Answer (List Value)) : Except Stop (List Item) :=
  (a.map (·.map Item.ofValue)).mapError .error

theorem toList_comma {e : Expr} {v : Value} {a : Answer (List Value)}
    (h : (evaluate call level e env (.ofValue v)).toList = gathered a) (path : List String) :
    (evaluate call level (.comma e (identity.along path)) env (.ofValue v)).toList =
      gathered (do return (← a) ++ [← v.along path]) := by
  rw [evaluate, evaluate_path]
  cases a with
  | error e => exact Results.toList_append_of_error h _
  | ok vs =>
    rw [Results.toList_append_of_ok h]
    cases v.along path with
    | error e => rfl
    | ok w =>
      have hitems : (vs ++ [w]).map Item.ofValue = vs.map Item.ofValue ++ [Item.ofValue w] :=
        List.map_append
      exact congrArg Except.ok hitems.symm

/-- What a query emits and then what paths select, up to the first one that selects nothing. -/
theorem toList_andThen {e : Expr} {v : Value} {a : Answer (List Value)}
    (h : (evaluate call level e env (.ofValue v)).toList = gathered a)
    (paths : List (List String)) :
    (evaluate call level (e.andThen paths) env (.ofValue v)).toList =
      gathered (do return (← a) ++ (← paths.mapM v.along)) := by
  induction paths generalizing e a with
  | nil =>
    rw [andThen, List.foldl_nil, h]
    cases a <;> simp
  | cons path paths ih =>
    rw [andThen, List.foldl_cons, ← andThen, ih (toList_comma call level env h path)]
    simp only [List.mapM_cons, bind_assoc, pure_bind, List.append_assoc, List.singleton_append]

theorem toList_paths (v : Value) (path : List String) (paths : List (List String)) :
    (evaluate call level ((identity.along path).andThen paths) env (.ofValue v)).toList =
      gathered ((path :: paths).mapM v.along) := by
  have hfirst : (evaluate call level (identity.along path) env (.ofValue v)).toList =
      gathered (do return [← v.along path]) := by
    rw [evaluate_path]
    cases v.along path <;> rfl
  rw [toList_andThen call level env hfirst]
  simp only [List.mapM_cons, bind_assoc, pure_bind, List.singleton_append]

end Expr

end HostSnapshot.Query
