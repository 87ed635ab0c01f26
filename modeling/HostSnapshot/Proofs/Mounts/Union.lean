import HostSnapshot.Proofs.Mounts.Table
import Mathlib.Data.List.Basic
import Mathlib.Data.List.Induction

namespace HostSnapshot.Mounts

/-- Mounts, and after them those of others for the devices that have none. -/
def union (m n : Mounts) : Mounts := m ++ n.filter fun e => !(m.lookup e.1).isSome

theorem union_nil (m : Mounts) : m.union [] = m := List.append_nil m

theorem union_concat (m n : Mounts) (e : String × Mount) :
    m.union (n ++ [e]) = m.union n ++ if (m.lookup e.1).isSome then [] else [e] := by
  rw [union, union, List.filter_append, List.append_assoc, List.filter_singleton]
  cases (m.lookup e.1).isSome <;> rfl

theorem lookup_filter {m n : Mounts} {device : String} (h : m.lookup device = none) :
    List.lookup device (n.filter fun e => !(m.lookup e.1).isSome) = n.lookup device := by
  induction n with
  | nil => rfl
  | cons e n ih =>
    obtain ⟨other, mount⟩ := e
    by_cases hd : device = other
    · subst hd
      rw [List.filter_cons_of_pos (by rw [h]; rfl), List.lookup_cons_self, List.lookup_cons_self]
    · have hne : (device == other) = false := beq_false_of_ne hd
      rw [List.lookup_cons, hne, List.filter_cons]
      split
      · rw [List.lookup_cons, hne]
        exact ih
      · exact ih

theorem lookup_union (m n : Mounts) (device : String) :
    (m.union n).lookup device = (m.lookup device).or (n.lookup device) := by
  rw [union, List.lookup_append]
  cases h : m.lookup device with
  | some mount => rfl
  | none => rw [lookup_filter h]

theorem add_union (m n : Mounts) (e : String × Mount) : (m.union n).add e = m.union (n.add e) := by
  have hkeys : ((m.union n).lookup e.1).isSome =
      ((m.lookup e.1).isSome || (n.lookup e.1).isSome) := by
    rw [lookup_union, Option.isSome_or]
  unfold add
  rw [hkeys]
  by_cases hn : (n.lookup e.1).isSome = true
  · rw [if_pos hn, hn, Bool.or_true, if_pos rfl]
  · rw [if_neg hn, (Bool.not_eq_true _).mp hn, Bool.or_false, union_concat]
    by_cases hm : (m.lookup e.1).isSome = true
    · rw [if_pos hm, if_pos hm, List.append_nil]
    · rw [if_neg hm, if_neg hm]

/-- Mounts in a row are those of a first part and then those of the rest. -/
theorem ofEntries_append (xs ys : List (String × Mount)) :
    ofEntries (xs ++ ys) = (ofEntries xs).union (ofEntries ys) := by
  induction ys using List.reverseRecOn with
  | nil =>
    rw [List.append_nil]
    exact (union_nil _).symm
  | append_singleton ys e ih =>
    have hlast (zs : List (String × Mount)) : ofEntries (zs ++ [e]) = (ofEntries zs).add e :=
      List.foldl_concat ..
    rw [← List.append_assoc, hlast, ih, hlast, add_union]

def isWellFormed (line : List Char) : Bool := 4 ≤ (Text.words line).length

def wellFormed (table : List Char) : List Char :=
  ((Text.lines table).filter isWellFormed).flatMap (· ++ ['\n'])

theorem ofLine?_of_not_isWellFormed {line : List Char} (h : isWellFormed line = false) :
    ofLine? line = none := by
  unfold ofLine?
  split
  · next hwords =>
    rw [isWellFormed, hwords] at h
    simp at h
  · rfl

theorem filterMap_filter_isWellFormed (ls : List (List Char)) :
    (ls.filter isWellFormed).filterMap ofLine? = ls.filterMap ofLine? := by
  rw [List.filterMap_filter]
  apply List.filterMap_congr
  intro line _
  split
  · rfl
  · next h => rw [ofLine?_of_not_isWellFormed (Bool.not_eq_true _ ▸ h)]

theorem ofText_wellFormed (table : List Char) : ofText (wellFormed table) = ofText table := by
  have hlines : ∀ l ∈ (Text.lines table).filter isWellFormed, ∀ c ∈ l,
      Text.isLineEnd c = false := by
    intro l hl
    exact Text.isLineEnd_of_mem_lines (List.mem_filter.mp hl).1
  rw [ofText, wellFormed, Text.lines_flatMap hlines, filterMap_filter_isWellFormed, ofText]

theorem ofText_append_singleton (s : List Char) : ofText (s ++ ['\n']) = ofText s := by
  unfold ofText
  rcases Text.lines_append_singleton s with h | h
  · rw [h]
  · rw [h, List.filterMap_append]
    exact congrArg ofEntries (List.append_nil _)

theorem ofText_cons_newline (s : List Char) : ofText ('\n' :: s) = ofText s := by
  rw [ofText, Text.lines_newline, List.filterMap_cons]
  rfl

theorem ofText_of_lines {s t u : List Char} (h : Text.lines u = Text.lines s ++ Text.lines t) :
    ofText u = (ofText s).union (ofText t) := by
  rw [ofText, h, List.filterMap_append, ofEntries_append]
  rfl

theorem ofText_append_newline (s t : List Char) :
    ofText (s ++ '\n' :: t) = (ofText s).union (ofText t) := by
  have hlines : Text.lines (s ++ '\n' :: t) = Text.lines (s ++ ['\n']) ++ Text.lines t := by
    rw [List.append_cons]
    exact Text.lines_append (.inr List.getLast?_concat) t
  rw [ofText_of_lines hlines, ofText_append_singleton]

/-- Where the last line of a table has its end, no line feed is needed before what is added. -/
theorem ofText_append_of_isLineEnd {s : List Char}
    (h : ∀ c, s.getLast? = some c → Text.isLineEnd c = true) (t : List Char) :
    ofText (s ++ t) = ofText (s ++ '\n' :: t) := by
  by_cases hpair : s.getLast? = some '\r' ∧ t.head? = some '\n'
  · -- The line feed is the second half of the last line end.
    obtain ⟨t, rfl⟩ := List.head?_eq_some_iff.mp hpair.2
    rw [ofText_append_newline, ofText_append_newline, ofText_cons_newline]
  · rw [ofText_append_newline]
    apply ofText_of_lines
    apply Text.lines_append_of_isLineEnd h
    exact fun hr ht => hpair ⟨hr, ht⟩

/-- Two tables, one after the other, are read as the mounts of the first one and then those of the
second one for other devices. What a device has in a table stays when lines are added to it, and the
lines with fewer than four fields may be dropped. -/
theorem ofText_append (s t : List Char) :
    ofText (s ++ '\n' :: t) = (ofText s).union (ofText t) ∧
    ((∀ c, s.getLast? = some c → Text.isLineEnd c = true) →
      ofText (s ++ t) = ofText (s ++ '\n' :: t)) ∧
    (∀ device mount, (ofText s).lookup device = some mount →
      (ofText (s ++ '\n' :: t)).lookup device = some mount) ∧
    ofText (wellFormed s) = ofText s := by
  refine ⟨ofText_append_newline s t, fun h => ofText_append_of_isLineEnd h t, ?_,
    ofText_wellFormed s⟩
  intro device mount h
  rw [ofText_append_newline, lookup_union, h, Option.some_or]

def returnedTable : List Char := "/dev/sda1 /boot vfat ro 0 0\r".toList

/-- Lines that begin with a line feed, with a mount of the same device in another spelling. -/
def laterTable : List Char :=
  "\n/dev/sda\\061 /mnt ext4 rw 0 0\n/dev/sdb1 /data\n/dev/sdb1 /srv xfs rw 0 0".toList

theorem ofText_append_returnedTable :
    (∀ c, returnedTable.getLast? = some c → Text.isLineEnd c = true) ∧
    (ofText returnedTable).lookup "/dev/sda1" = some ⟨"/boot", true⟩ ∧
    ofText (returnedTable ++ laterTable) =
      [("/dev/sda1", ⟨"/boot", true⟩), ("/dev/sdb1", ⟨"/srv", false⟩)] ∧
    (ofText (returnedTable ++ '\n' :: laterTable)).lookup "/dev/sda1" = some ⟨"/boot", true⟩ := by
  have hend : ∀ c, returnedTable.getLast? = some c → Text.isLineEnd c = true := by
    intro c hc
    have hreturn : returnedTable.getLast? = some '\r' := by decide
    rw [hreturn, Option.some.injEq] at hc
    rw [← hc]
    rfl
  have hboot : (ofText returnedTable).lookup "/dev/sda1" = some ⟨"/boot", true⟩ := by decide
  obtain ⟨hunion, hatOnce, hstays, -⟩ := ofText_append returnedTable laterTable
  refine ⟨hend, hboot, ?_, hstays _ _ hboot⟩
  rw [hatOnce hend, hunion]
  decide

end HostSnapshot.Mounts
