import HostSnapshot.Proofs.Query.Selection
import HostSnapshot.Query.Run

namespace HostSnapshot.Query

/-- Paths with points between the fields and commas between the paths. Every path but the first has
a point before it as well. -/
def pathsText (paths : List (List String)) : String :=
  ", .".intercalate (paths.map ".".intercalate)

theorem point_intercalate {path : List String} (h : path ≠ []) :
    '.' :: (".".intercalate path).toList = spell path := by
  rw [String.toList_intercalate]
  induction path with
  | nil => exact absurd rfl h
  | cons name path ih =>
    cases path with
    | nil => simp [spell]
    | cons next path =>
      have htail := ih (List.cons_ne_nil next path)
      rw [List.map_cons] at htail
      rw [List.map_cons, List.map_cons, List.intercalate_cons_cons, List.append_assoc]
      exact congrArg (fun s => '.' :: (name.toList ++ s)) htail

/-- With a point before the first path, all paths are written alike. -/
theorem toList_pathsText {paths : List (List String)} (hne : paths ≠ [])
    (hpaths : ∀ path ∈ paths, path ≠ []) :
    ("." ++ pathsText paths).toList = [',', ' '].intercalate (paths.map spell) := by
  have hseparator : ", .".toList = [',', ' '] ++ ['.'] := rfl
  have hpieces : (paths.map ".".intercalate).map String.toList ≠ [] := by simpa using hne
  have hspell : ((paths.map ".".intercalate).map String.toList).map (['.'] ++ ·) =
      paths.map spell := by
    rw [List.map_map, List.map_map]
    exact List.map_congr_left fun path hpath => point_intercalate (hpaths path hpath)
  rw [String.toList_append, pathsText, String.toList_intercalate, hseparator, ← hspell]
  exact append_intercalate ['.'] [',', ' '] hpieces

theorem Expr.ofText?_paths {path : List String} {paths : List (List String)}
    (hne : ∀ p ∈ path :: paths, p ≠ []) (hnames : ∀ p ∈ path :: paths, ∀ name ∈ p, IsName name) :
    Expr.ofText? ("." ++ pathsText (path :: paths)) =
      some ((identity.along path).andThen paths) := by
  have htokens := Token.ofChars?_of_scans (Token.Scans.paths hnames)
  have hpaths := List.forall_mem_cons.mp hne
  have hclosed : ((identity.along path).andThen paths).isClosed
      ⟨Library.env.functions, [], []⟩ = true :=
    isClosed_andThen (isClosed_along rfl path) paths
  rw [ofText?, toList_pathsText (List.cons_ne_nil path paths) hne, htokens]
  simp only [Option.bind_eq_bind, Option.bind_some, Expr.ofTokens?_paths hpaths.1 hpaths.2,
    if_pos hclosed]

/-- A list of paths comes to what they select, or to the error of the first one that selects
nothing. -/
theorem run_paths {input : Json} (hinput : input.isWritable = true) {paths : List (List String)}
    (hpaths : paths ≠ []) (hne : ∀ path ∈ paths, path ≠ [])
    (hnames : ∀ path ∈ paths, ∀ name ∈ path, IsName name) :
    run ("." ++ pathsText paths) (.ok input) =
      match paths.mapM (Value.ofJson input).along with
      | .ok vs => .ok (vs.map Value.toJson)
      | .error e => .error (.run (errorMessage e)) := by
  obtain ⟨path, paths, rfl⟩ := List.exists_cons_of_ne_nil hpaths
  obtain ⟨fuel, hfuel⟩ : ∃ fuel, maxCalls = fuel + 1 := ⟨1048575, rfl⟩
  have hwritable : ¬ (!input.isWritable) = true := by rw [hinput]; decide
  unfold run
  rw [Expr.ofText?_paths hne hnames]
  dsimp only
  rw [if_neg hwritable, hfuel, Expr.run, Expr.toList_paths]
  cases (path :: paths).mapM (Value.ofJson input).along with
  | error e => rfl
  | ok vs =>
    change Except.ok ((vs.map Item.ofValue).map fun x => x.value.toJson) = _
    rw [List.map_map]
    rfl

theorem run_paths_of_error {paths : List (List String)} (hpaths : paths ≠ [])
    (hne : ∀ path ∈ paths, path ≠ []) (hnames : ∀ path ∈ paths, ∀ name ∈ path, IsName name)
    (reason : String) : run ("." ++ pathsText paths) (.error reason) = .error (.run reason) := by
  obtain ⟨path, paths, rfl⟩ := List.exists_cons_of_ne_nil hpaths
  unfold run
  rw [Expr.ofText?_paths hne hnames]

end HostSnapshot.Query
