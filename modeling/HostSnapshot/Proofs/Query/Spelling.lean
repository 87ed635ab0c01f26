import HostSnapshot.Proofs.Query.Scanning
import HostSnapshot.Query.Grammar
import HostSnapshot.Query.Scope

namespace HostSnapshot.Query

namespace Expr

def along (e : Expr) (path : List String) : Expr :=
  path.foldl (fun e name => e.field name false) e

/-- What a query emits, and then what each of some paths selects. -/
def andThen (e : Expr) (paths : List (List String)) : Expr :=
  paths.foldl (fun e path => .comma e (identity.along path)) e

end Expr

namespace Grammar

/-- What may follow the last field of a path. -/
inductive EndsPath : List Token → Prop
  | done : EndsPath []
  | comma (ts : List Token) : EndsPath (.symbol "," :: ts)

variable {path : List String} {rest : List Token}

theorem fields_cons (name : String) (path : List String) (rest : List Token) :
    fields (name :: path) ++ rest = .field name :: (fields path ++ rest) := rfl

theorem mark_fields (path : List String) (h : EndsPath rest) :
    mark (fields path ++ rest) = (false, fields path ++ rest) := by
  cases path with
  | nil => cases h <;> rfl
  | cons name path => rfl

theorem suffixes_fields (e : Expr) (h : EndsPath rest) {n : Nat} (hn : path.length < n) :
    suffixes n e (fields path ++ rest) = some (e.along path, rest) := by
  induction path generalizing n e with
  | nil =>
    cases n with
    | zero => cases hn
    | succ n => cases h <;> rfl
  | cons name path ih =>
    cases n with
    | zero => cases hn
    | succ n =>
      rw [fields_cons, suffixes, mark_fields path h]
      exact ih (e.field name false) (Nat.lt_of_succ_lt_succ hn)

theorem term_fields (hne : path ≠ []) (h : EndsPath rest) {n : Nat} (hn : path.length < n) :
    term (n + 1) (fields path ++ rest) = some (Expr.identity.along path, rest) := by
  obtain ⟨name, path, rfl⟩ := List.exists_cons_of_ne_nil hne
  have hprimary : primary n (.field name :: (fields path ++ rest)) =
      some (Expr.identity.field name false, fields path ++ rest) := by
    cases n with
    | zero => cases hn
    | succ n => rw [primary, mark_fields path h]
  rw [fields_cons, term, hprimary]
  exact suffixes_fields _ h (Nat.lt_of_succ_lt hn)

theorem operand_fields (hne : path ≠ []) (h : EndsPath rest) {n : Nat} (hn : path.length < n) :
    operand (n + 2) (fields path ++ rest) = some (Expr.identity.along path, rest) := by
  have hterm := term_fields hne h hn
  have has : keyword "as" rest = none := by cases h <;> rfl
  obtain ⟨name, path, rfl⟩ := List.exists_cons_of_ne_nil hne
  rw [fields_cons] at hterm ⊢
  rw [operand]
  · dsimp only
    rw [hterm]
    simp only [Option.bind_eq_bind, Option.bind_some, has]
    cases h <;> rfl
  -- No other operand starts with a field.
  all_goals simp

theorem operation_fields (hne : path ≠ []) (h : EndsPath rest) {n : Nat} (hn : path.length < n)
    (level : Nat) :
    operation (n + 3) level (fields path ++ rest) = some (Expr.identity.along path, rest) := by
  have hlast : rest.head?.bind Infix.ofToken? = none := by cases h <;> rfl
  rw [operation, operand_fields hne h hn]
  simp only [Option.bind_eq_bind, Option.bind_some]
  rw [moreOfOperation, hlast]

def moreFields (paths : List (List String)) : List Token :=
  paths.flatMap fun path => .symbol "," :: fields path

theorem endsPath_moreFields (paths : List (List String)) : EndsPath (moreFields paths) := by
  cases paths with
  | nil => exact .done
  | cons path paths => exact .comma _

theorem moreOfSequence_fields {paths : List (List String)} (hpaths : ∀ path ∈ paths, path ≠ [])
    (e : Expr) {n : Nat} (hn : (moreFields paths).length + 3 < n) :
    moreOfSequence n e (moreFields paths) = some (e.andThen paths, []) := by
  induction paths generalizing n e with
  | nil =>
    cases n with
    | zero => cases hn
    | succ n => rfl
  | cons path paths ih =>
    rw [List.forall_mem_cons] at hpaths
    have htokens : moreFields (path :: paths) =
        .symbol "," :: (fields path ++ moreFields paths) := rfl
    have hlength : path.length = (fields path).length := by simp [fields]
    rw [htokens, List.length_cons, List.length_append, ← hlength] at hn
    obtain ⟨n, rfl⟩ : ∃ m, n = m + 4 := ⟨n - 4, by omega⟩
    rw [htokens, moreOfSequence, operation_fields hpaths.1 (endsPath_moreFields paths) (by omega)]
    exact ih hpaths.2 _ (by omega)

theorem intercalate_fields (path : List String) (paths : List (List String)) :
    [.symbol ","].intercalate ((path :: paths).map fields) = fields path ++ moreFields paths := by
  induction paths generalizing path with
  | nil => simp [moreFields]
  | cons next paths ih =>
    have hnext := ih next
    rw [List.map_cons] at hnext
    rw [List.map_cons, List.map_cons, List.intercalate_cons_cons, hnext, List.append_assoc]
    rfl

theorem query_fields (hne : path ≠ []) {paths : List (List String)}
    (hpaths : ∀ path ∈ paths, path ≠ []) {n : Nat}
    (hn : (fields path ++ moreFields paths).length + 3 < n) :
    query (n + 2) (fields path ++ moreFields paths) =
      some ((Expr.identity.along path).andThen paths, []) := by
  have hlength : path.length = (fields path).length := by simp [fields]
  rw [List.length_append, ← hlength] at hn
  obtain ⟨n, rfl⟩ : ∃ m, n = m + 3 := ⟨n - 3, by omega⟩
  have hfirst := operation_fields hne (endsPath_moreFields paths) (n := n) (by omega) 0
  have hmore := moreOfSequence_fields hpaths (Expr.identity.along path) (n := n + 3) (by omega)
  rw [query, sequence, hfirst]
  simp only [Option.bind_eq_bind, Option.bind_some, hmore]
  rfl

end Grammar

/-- Paths with commas between them select one after the other. -/
theorem Expr.ofTokens?_paths {path : List String} (hpath : path ≠ []) {paths : List (List String)}
    (hpaths : ∀ path ∈ paths, path ≠ []) :
    ofTokens? ([.symbol ","].intercalate ((path :: paths).map fields)) =
      some ((identity.along path).andThen paths) := by
  rw [Grammar.intercalate_fields]
  have hquery := Grammar.query_fields hpath hpaths
    (n := 16 * (fields path ++ Grammar.moreFields paths).length + 30) (by omega)
  rw [ofTokens?, Grammar.steps, Nat.mul_add, hquery]

theorem Expr.isClosed_along {scope : Scope} {e : Expr} (h : e.isClosed scope = true)
    (path : List String) : (e.along path).isClosed scope = true := by
  induction path generalizing e with
  | nil => exact h
  | cons name path ih =>
    have hfield : (e.field name false).isClosed scope = true := by
      rw [field, isClosed, h]
      rfl
    exact ih hfield

theorem Expr.isClosed_andThen {scope : Scope} {e : Expr} (h : e.isClosed scope = true)
    (paths : List (List String)) : (e.andThen paths).isClosed scope = true := by
  induction paths generalizing e with
  | nil => exact h
  | cons path paths ih =>
    have hcomma : (Expr.comma e (identity.along path)).isClosed scope = true := by
      rw [isClosed, h, isClosed_along rfl path]
      rfl
    exact ih hcomma

end HostSnapshot.Query
