import HostSnapshot.Query.Token

namespace HostSnapshot.Query

/-- A name that a query can ask for after a point: letters, underscores and digits, but no digit
first. -/
def IsName (name : String) : Prop :=
  name.toList.head?.any Token.isWordStart = true ∧ name.toList.all Token.isWordChar = true

instance (name : String) : Decidable (IsName name) := inferInstanceAs (Decidable (_ ∧ _))

namespace Token

/-- From some text tokens are read, and the rest of it is left. -/
def Scans (s : List Char) (ts : List Token) (rest : List Char) : Prop :=
  ∀ steps, s.length ≤ steps → ∃ steps', rest.length ≤ steps' ∧
    scan steps [] s = (scan steps' [] rest).map (ts ++ ·)

theorem Scans.append {s s' rest : List Char} {ts us : List Token} (h : Scans s ts s')
    (h' : Scans s' us rest) : Scans s (ts ++ us) rest := by
  intro steps hsteps
  obtain ⟨steps', hsteps', heq⟩ := h steps hsteps
  obtain ⟨steps'', hsteps'', heq'⟩ := h' steps' hsteps'
  refine ⟨steps'', hsteps'', ?_⟩
  rw [heq, heq', Option.map_map]
  congr 1
  funext vs
  exact (List.append_assoc ts us vs).symm

theorem Scans.done {rest : List Char} : Scans rest [] rest :=
  fun steps hsteps => ⟨steps, hsteps, by simp⟩

theorem ofChars?_of_scans {s : List Char} {ts : List Token} (h : Scans s ts []) :
    ofChars? s = some ts := by
  obtain ⟨steps, -, heq⟩ := h s.length (Nat.le_refl _)
  rw [ofChars?, heq, scan, Option.map_some, List.append_nil]

theorem Scans.token {c : Char} {s rest : List Char} {t : Token} (hspace : isSpace c = false)
    (hcomment : c ≠ '#') (ht : inCode? [] (c :: s) = some (t, [], rest))
    (hrest : rest.length ≤ s.length) : Scans (c :: s) [t] rest := by
  intro steps hsteps
  cases steps with
  | zero => cases hsteps
  | succ steps =>
    refine ⟨steps, Nat.le_trans hrest (Nat.le_of_succ_le_succ hsteps), ?_⟩
    simp [scan, hspace, hcomment, ht]

theorem Scans.space {c : Char} (h : isSpace c = true) (rest : List Char) :
    Scans (c :: rest) [] rest := by
  intro steps hsteps
  cases steps with
  | zero => cases hsteps
  | succ steps =>
    refine ⟨steps, Nat.le_of_succ_le_succ hsteps, ?_⟩
    simp [scan, h]

theorem Scans.comma (rest : List Char) : Scans (',' :: rest) [.symbol ","] rest :=
  Scans.token rfl (by decide) rfl (Nat.le_refl _)

/-- What follows a word and does not go on with it. -/
def EndsWord (s : List Char) : Prop := ∀ c ∈ s.head?, isWordChar c = false

theorem takeWhile_word {s rest : List Char} (hs : ∀ d ∈ s, isWordChar d = true)
    (hrest : EndsWord rest) : (s ++ rest).takeWhile isWordChar = s ∧
      (s ++ rest).dropWhile isWordChar = rest := by
  rw [List.takeWhile_append_of_pos hs, List.dropWhile_append_of_pos hs]
  cases rest with
  | nil => simp
  | cons c rest =>
    have hc : isWordChar c = false := hrest c rfl
    simp [hc]

theorem Scans.field {name : String} (hname : IsName name) {rest : List Char}
    (hrest : EndsWord rest) : Scans ('.' :: (name.toList ++ rest)) [.field name] rest := by
  obtain ⟨hstart, hword⟩ := hname
  obtain ⟨c, hfirst, hc⟩ := (Option.any_eq_true _ _).mp hstart
  obtain ⟨s, hs⟩ := List.head?_eq_some_iff.mp hfirst
  obtain ⟨htake, hdrop⟩ := takeWhile_word (List.all_eq_true.mp hword) hrest
  apply Scans.token rfl (by decide)
  · rw [hs, List.cons_append] at htake hdrop ⊢
    rw [inCode?, if_pos hc, htake, hdrop, ← hs, String.ofList_toList]
  · rw [List.length_append]
    exact Nat.le_add_left _ _

end Token

/-- A path of fields, each after a point. -/
def spell (path : List String) : List Char := path.flatMap fun name => '.' :: name.toList

def fields (path : List String) : List Token := path.map .field

namespace Token

theorem endsWord_spell (path : List String) {rest : List Char} (h : EndsWord rest) :
    EndsWord (spell path ++ rest) := by
  cases path with
  | nil => exact h
  | cons name path =>
    intro c hc
    obtain rfl : '.' = c := Option.some.inj hc
    rfl

theorem Scans.path {path : List String} (hpath : ∀ name ∈ path, IsName name) {rest : List Char}
    (hrest : EndsWord rest) : Scans (spell path ++ rest) (fields path) rest := by
  induction path with
  | nil => exact Scans.done
  | cons name path ih =>
    rw [List.forall_mem_cons] at hpath
    have hfirst := Scans.field hpath.1 (endsWord_spell path hrest)
    have htext : spell (name :: path) ++ rest = '.' :: (name.toList ++ (spell path ++ rest)) := by
      simp [spell]
    rw [htext]
    exact hfirst.append (ih hpath.2)

theorem Scans.paths {paths : List (List String)}
    (hpaths : ∀ path ∈ paths, ∀ name ∈ path, IsName name) :
    Scans ([',', ' '].intercalate (paths.map spell))
      ([.symbol ","].intercalate (paths.map fields)) [] := by
  -- On the paths; the last one is followed by nothing, every other one by a comma.
  induction paths with
  | nil => exact Scans.done
  | cons path paths ih =>
    rw [List.forall_mem_cons] at hpaths
    cases paths with
    | nil =>
      have hend : EndsWord [] := fun _ h => by cases h
      have h := Scans.path hpaths.1 hend
      rw [List.append_nil] at h
      rwa [List.map_singleton, List.map_singleton, List.intercalate_singleton,
        List.intercalate_singleton]
    | cons next paths =>
      have hcomma (rest : List Char) : EndsWord (',' :: rest) := by
        intro c hc
        obtain rfl : ',' = c := Option.some.inj hc
        rfl
      rw [List.map_cons, List.map_cons, List.intercalate_cons_cons, List.map_cons, List.map_cons,
        List.intercalate_cons_cons, List.append_assoc, List.append_assoc]
      exact (Scans.path hpaths.1 (hcomma _)).append
        ((Scans.comma _).append ((Scans.space rfl _).append (ih hpaths.2)))

end Token

/-- What stands after every separator and before the first piece belongs to the pieces. -/
theorem append_intercalate {α : Type} (front separator : List α) {pieces : List (List α)}
    (h : pieces ≠ []) :
    front ++ (separator ++ front).intercalate pieces =
      separator.intercalate (pieces.map (front ++ ·)) := by
  induction pieces with
  | nil => exact absurd rfl h
  | cons piece pieces ih =>
    cases pieces with
    | nil => simp
    | cons next pieces =>
      rw [List.map_cons, List.map_cons, List.intercalate_cons_cons, List.intercalate_cons_cons,
        ← List.map_cons, ← ih (List.cons_ne_nil next pieces)]
      simp only [List.append_assoc]

end HostSnapshot.Query
