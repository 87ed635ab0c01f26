import HostSnapshot.Proofs.Discovery.Unlisted
import HostSnapshot.Proofs.Text.Integer

namespace HostSnapshot

namespace Processors

open Text.Integer (decimal? IsNumeral)

/-- A key and a value for each line that has them. -/
abbrev Entries := List (List Char × List Char)

namespace Entries

def ofText (s : List Char) : Entries := (Text.lines (Text.strip s)).filterMap entry?

def values (entries : Entries) (key : String) : List (List Char) :=
  (entries.filter (·.1 = key.toList)).map (·.2)

def first (entries : Entries) (key : String) : String :=
  String.ofList (((entries.values key).find? (!·.isEmpty)).getD [])

/-- One more than the greatest socket that is written as a decimal number. -/
def sockets (entries : Entries) : Nat :=
  ((((entries.values "physical id").filterMap decimal?).max?).map (· + 1)).getD 0

/-- Whether every socket that is written with digits alone is a number. -/
def AreRead (entries : Entries) : Prop :=
  ∀ id ∈ entries.values "physical id", id ≠ [] → id.all Text.isDigit = true → IsNumeral id

def IsRead (key value : List Char) : Prop :=
  key = "physical id".toList → value ≠ [] → value.all Text.isDigit = true → IsNumeral value

variable {key value : List Char} {entries : Entries} {name : String}

theorem values_cons : values ((key, value) :: entries) name =
    if key = name.toList then value :: entries.values name else entries.values name := by
  unfold values
  by_cases h : key = name.toList <;> simp [h]

theorem first_cons : first ((key, value) :: entries) name =
    if key = name.toList ∧ value ≠ [] then String.ofList value else entries.first name := by
  unfold first
  rw [values_cons]
  by_cases h : key = name.toList <;> cases value <;> simp [h]

theorem first_cons_eq_or : first ((key, value) :: entries) name =
    if first [(key, value)] name = "" then entries.first name else first [(key, value)] name := by
  have hnil : first [] name = "" := rfl
  rw [first_cons, first_cons, hnil]
  by_cases h : key = name.toList ∧ value ≠ []
  · have hvalue : String.ofList value ≠ "" := by simp [h.2]
    simp only [if_pos h, if_neg hvalue]
  · simp only [if_neg h, ↓reduceIte]

theorem max?_cons_succ (n : Nat) (ids : List Nat) :
    ((n :: ids).max?.map (· + 1)).getD 0 = max (n + 1) ((ids.max?.map (· + 1)).getD 0) := by
  rw [List.max?_cons]
  cases ids.max? with
  | none => exact (Nat.max_zero _).symm
  | some m =>
    change max n m + 1 = max (n + 1) (m + 1)
    omega

theorem sockets_cons : sockets ((key, value) :: entries) =
    max (if key = "physical id".toList then ((decimal? value).map (· + 1)).getD 0 else 0)
      entries.sockets := by
  unfold sockets
  generalize "physical id" = name
  rw [values_cons]
  by_cases h : key = name.toList
  · simp only [if_pos h, List.filterMap_cons]
    cases decimal? value with
    | none => exact (Nat.zero_max _).symm
    | some n => exact max?_cons_succ n _
  · simp only [if_neg h]
    exact (Nat.zero_max _).symm

theorem areRead_cons : AreRead ((key, value) :: entries) ↔ IsRead key value ∧ entries.AreRead := by
  unfold AreRead IsRead
  generalize "physical id" = name
  rw [values_cons]
  by_cases h : key = name.toList <;> simp [h]

theorem first_singleton : first [(key, value)] name =
    if key = name.toList then String.ofList value else "" := by
  have hnil : first [] name = "" := rfl
  rw [first_cons, hnil]
  by_cases h : key = name.toList <;> cases value <;> simp [h]

theorem sockets_singleton : sockets [(key, value)] =
    if key = "physical id".toList then ((decimal? value).map (· + 1)).getD 0 else 0 := by
  rw [sockets_cons]
  exact Nat.max_zero _

end Entries

open Entries

def told (entries : Entries) : Processors :=
  ⟨entries.first "vendor_id", entries.first "model name", entries.sockets⟩

/-- What is known of processors after more was told. -/
def join (p q : Processors) : Processors :=
  ⟨if p.vendor = "" then q.vendor else p.vendor, if p.model = "" then q.model else p.model,
    max p.sockets q.sockets⟩

variable {p : Processors} {key value : List Char} {entries : Entries}

theorem join_assoc (p q r : Processors) : (p.join q).join r = p.join (q.join r) := by
  have hfirst (a b c : String) :
      (if (if a = "" then b else a) = "" then c else if a = "" then b else a) =
        if a = "" then if b = "" then c else b else a := by
    by_cases h : a = "" <;> simp [h]
  unfold join
  rw [hfirst, hfirst, Int.max_assoc]

theorem told_cons : told ((key, value) :: entries) =
    (told [(key, value)]).join (told entries) := by
  unfold told join
  rw [← first_cons_eq_or, ← first_cons_eq_or, sockets_cons, sockets_singleton]
  simp only [Processors.mk.injEq, true_and]
  omega

theorem or_empty (s : String) : (if s = "" then "" else s) = s := by
  by_cases h : s = "" <;> simp [h]

theorem join_told_nil (hp : 0 ≤ p.sockets) : p.join (told []) = p := by
  change Processors.mk (if p.vendor = "" then "" else p.vendor)
    (if p.model = "" then "" else p.model) (max p.sockets 0) = p
  rw [or_empty, or_empty, Int.max_eq_left hp]

theorem key_ne_of_socket (h : key = "physical id".toList) :
    key ≠ "vendor_id".toList ∧ key ≠ "model name".toList := by
  rw [h]
  decide

theorem learn_of_isRead (hp : 0 ≤ p.sockets) (h : IsRead key value) :
    p.learn key value = .ok (p.join (told [(key, value)])) := by
  have hzero : max p.sockets ((0 : Nat) : Int) = p.sockets := Int.max_eq_left hp
  unfold learn told join
  rw [first_singleton, first_singleton, sockets_singleton]
  by_cases hid : key = "physical id".toList
  · obtain ⟨hvendor, hmodel⟩ := key_ne_of_socket hid
    simp only [if_neg hvendor, if_neg hmodel, if_pos hid, or_empty]
    cases hnumber : decimal? value with
    | none =>
      -- A value of digits alone would be a number here.
      have hguard : ¬ (!value.isEmpty && value.all Text.isDigit) = true := by
        intro hguard
        simp only [Bool.and_eq_true, Bool.not_eq_true', List.isEmpty_eq_false_iff] at hguard
        have hnumeral := h hid hguard.1 hguard.2
        simp [IsNumeral, hnumber] at hnumeral
      rw [if_neg hguard]
      simp only [Option.map_none, Option.getD_none, hzero]
    | some n =>
      obtain ⟨hvalue, hdigits⟩ := Text.Integer.all_isDigit_of_decimal? hnumber
      have hguard : (!value.isEmpty && value.all Text.isDigit) = true := by
        simp [hvalue, hdigits]
      have hlength := (h hid hvalue hdigits).2
      rw [if_pos hguard, Text.Integer.ofText_of_decimal? hnumber hlength]
      rfl
  · simp only [if_neg hid, hzero]
    by_cases hvendor : key = "vendor_id".toList
    · have hmodel : key ≠ "model name".toList := by
        rw [hvendor]
        decide
      simp only [if_pos hvendor, if_neg hmodel, or_empty]
      by_cases hp : p.vendor = "" <;> simp [hp]
    · simp only [if_neg hvendor, or_empty]
      by_cases hmodel : key = "model name".toList
      · simp only [if_pos hmodel]
        by_cases hp : p.model = "" <;> simp [hp]
      · simp only [if_neg hmodel, or_empty]

theorem learn_of_not_isRead (h : ¬ IsRead key value) :
    ∃ cause, p.learn key value = .error (.malformedInteger cause) := by
  simp only [IsRead, Classical.not_imp] at h
  obtain ⟨hid, hvalue, hdigits, hnumeral⟩ := h
  obtain ⟨hvendor, hmodel⟩ := key_ne_of_socket hid
  obtain ⟨cause, hcause⟩ := Text.Integer.ofText_of_not_isNumeral hvalue hdigits hnumeral
  have hguard : (!value.isEmpty && value.all Text.isDigit) = true := by simp [hvalue, hdigits]
  refine ⟨cause, ?_⟩
  unfold learn
  rw [if_neg hvendor, if_neg hmodel, if_pos hid, if_pos hguard, hcause]

theorem foldlM_learn (hp : 0 ≤ p.sockets) (h : AreRead entries) :
    entries.foldlM (fun p (key, value) => p.learn key value) p =
      .ok (p.join (told entries)) := by
  induction entries generalizing p with
  | nil => rw [join_told_nil hp]; rfl
  | cons entry entries ih =>
    obtain ⟨key, value⟩ := entry
    obtain ⟨hentry, hentries⟩ := areRead_cons.mp h
    have hjoin : 0 ≤ (p.join (told [(key, value)])).sockets := Int.le_trans hp (Int.le_max_left _ _)
    rw [List.foldlM_cons]
    dsimp only
    rw [learn_of_isRead hp hentry]
    exact (ih hjoin hentries).trans (by rw [join_assoc, ← told_cons])

theorem foldlM_learn_of_not_areRead (hp : 0 ≤ p.sockets) (h : ¬ AreRead entries) :
    ∃ cause, entries.foldlM (fun p (key, value) => p.learn key value) p =
      .error (.malformedInteger cause) := by
  induction entries generalizing p with
  | nil => exact absurd (fun _ h => nomatch h) h
  | cons entry entries ih =>
    obtain ⟨key, value⟩ := entry
    rw [List.foldlM_cons]
    dsimp only
    by_cases hentry : IsRead key value
    · have hentries : ¬ AreRead entries := fun hentries => h (areRead_cons.mpr ⟨hentry, hentries⟩)
      have hjoin : 0 ≤ (p.join (told [(key, value)])).sockets :=
        Int.le_trans hp (Int.le_max_left _ _)
      rw [learn_of_isRead hp hentry]
      exact ih hjoin hentries
    · obtain ⟨cause, hcause⟩ := learn_of_not_isRead (p := p) hentry
      rw [hcause]
      exact ⟨cause, rfl⟩

theorem join_told (entries : Entries) :
    (⟨"", "", 0⟩ : Processors).join (told entries) = told entries := by
  unfold join told
  rw [if_pos rfl, if_pos rfl, Int.max_eq_right (Int.natCast_nonneg _)]

theorem ofText_of_areRead {s : List Char} (h : (Entries.ofText s).AreRead) :
    ofText s = .ok (told (Entries.ofText s)) := by
  have hrun := foldlM_learn (p := ⟨"", "", 0⟩) (Int.le_refl 0) h
  rwa [join_told] at hrun

theorem ofText_of_not_areRead {s : List Char} (h : ¬ (Entries.ofText s).AreRead) :
    ∃ cause, ofText s = .error (.malformedInteger cause) :=
  foldlM_learn_of_not_areRead (p := ⟨"", "", 0⟩) (Int.le_refl 0) h

end Processors

end HostSnapshot
