import HostSnapshot.Identity
import HostSnapshot.Proofs.Discovery.Capture
import HostSnapshot.Proofs.Text.FirstLine
import HostSnapshot.Proofs.Text.Pieces
import HostSnapshot.Proofs.Text.Utf8
import Mathlib.Data.List.Basic
import Mathlib.Data.List.Induction

namespace HostSnapshot

namespace Release

def lastValue? (assignments : List (String × String)) (key : String) : Option String :=
  assignments.reverse.lookup key

theorem lookup_cons (k v key : String) (r : Release) :
    List.lookup key ((k, v) :: r) = if key = k then some v else r.lookup key := by
  rw [List.lookup_cons]
  by_cases h : key = k
  · rw [if_pos h, beq_iff_eq.mpr h]
  · rw [if_neg h, beq_false_of_ne h]

theorem lookup_set (r : Release) (key value other : String) :
    (r.set key value).lookup other = if other = key then some value else r.lookup other := by
  induction r with
  | nil => exact lookup_cons key value other []
  | cons head r ih =>
    obtain ⟨k, v⟩ := head
    rw [set, lookup_cons]
    by_cases hk : k = key
    · rw [if_pos hk, lookup_cons, hk]
      split <;> rfl
    · rw [if_neg hk, lookup_cons, ih]
      by_cases h : other = k
      · rw [if_pos h, if_pos h, if_neg (h ▸ hk)]
      · rw [if_neg h, if_neg h]

theorem keys_set (r : Release) (key value : String) : (r.set key value).map Prod.fst =
    if key ∈ r.map Prod.fst then r.map Prod.fst else r.map Prod.fst ++ [key] := by
  induction r with
  | nil => rfl
  | cons head r ih =>
    obtain ⟨k, v⟩ := head
    rw [set]
    by_cases hk : k = key
    · simp [hk]
    · rw [if_neg hk, List.map_cons, ih, List.map_cons]
      by_cases h : key ∈ r.map Prod.fst
      · rw [if_pos h, if_pos (List.mem_cons_of_mem k h)]
      · have hcons : key ∉ k :: r.map Prod.fst := by
          rw [List.mem_cons, not_or]
          exact ⟨Ne.symm hk, h⟩
        rw [if_neg h, if_neg hcons, List.cons_append]

theorem ofAssignments_concat (assignments : List (String × String)) (a : String × String) :
    ofAssignments (assignments ++ [a]) = (ofAssignments assignments).set a.1 a.2 :=
  List.foldl_concat ..

theorem keys_ofAssignments (assignments : List (String × String)) :
    (ofAssignments assignments).map Prod.fst = (assignments.map Prod.fst).eraseDups := by
  induction assignments using List.reverseRecOn with
  | nil => rfl
  | append_singleton assignments a ih =>
    rw [ofAssignments_concat, keys_set, ih, List.map_append, List.eraseDups_append]
    by_cases h : a.1 ∈ assignments.map Prod.fst
    · rw [if_pos (List.mem_eraseDups.mpr h)]
      simp [List.removeAll, h]
    · rw [if_neg (mt List.mem_eraseDups.mp h)]
      simp [List.removeAll, h, List.eraseDups_cons]

theorem lookup_ofAssignments (assignments : List (String × String)) (key : String) :
    (ofAssignments assignments).lookup key = lastValue? assignments key := by
  unfold lastValue?
  induction assignments using List.reverseRecOn with
  | nil => rfl
  | append_singleton assignments a ih =>
    rw [ofAssignments_concat, lookup_set, ih, List.reverse_concat, ← lookup_cons]

inductive Quoting
  | double
  | single
  | bare
deriving DecidableEq

def Quoting.write : Quoting → List Char → List Char
  | double, value => '"' :: value ++ ['"']
  | single, value => '\x27' :: value ++ ['\x27']
  | bare, value => value

theorem mem_enclosed {a c : Char} {s : List Char} (h : c ∈ a :: s ++ [a]) : c ∈ s ∨ c = a := by
  rw [List.cons_append, List.mem_cons, List.mem_append, List.mem_singleton] at h
  rcases h with hc | hc | hc
  · exact .inr hc
  · exact .inl hc
  · exact .inr hc

theorem mem_write {quoting : Quoting} {c : Char} {s : List Char} (h : c ∈ quoting.write s) :
    c ∈ s ∨ c = '"' ∨ c = '\x27' := by
  cases quoting with
  | double => exact (mem_enclosed h).imp_right .inl
  | single => exact (mem_enclosed h).imp_right .inr
  | bare => exact .inl h

/-- A line with an assignment, or one that says nothing. -/
inductive Line
  | assignment (key value : String) (quoting : Quoting)
  | other (text : List Char)

namespace Line

def chars : Line → List Char
  | assignment key value quoting => key.toList ++ '=' :: quoting.write value.toList
  | other text => text

def assignment? : Line → Option (String × String)
  | assignment key value _ => some (key, value)
  | other _ => none

end Line

/-- A key is a tidy text without an equals sign, and not the beginning of a comment. -/
structure IsKey (s : List Char) : Prop where
  tidy : Text.IsTidy s
  noEquals : '=' ∉ s
  noComment : s.head? ≠ some '#'

def isQuote (c : Char) : Bool := c == '"' || c == '\x27'

/-- A value is text on one line that does not begin or end with a quote. Without quotes around it,
it does not begin or end with a blank either. -/
structure IsValue (quoting : Quoting) (s : List Char) : Prop where
  line : ∀ c ∈ s, Text.isLineEnd c = false
  quotes : Text.EndsAvoid isQuote s
  blanks : quoting = .bare → Text.EndsAvoid Text.isBlank s

theorem isKey_of_all {s : List Char} (hne : s ≠ [])
    (h : s.all (fun c => !(Text.isBlank c || c == '=' || c == '#')) = true) : IsKey s := by
  have hchars : ∀ c ∈ s, Text.isBlank c = false ∧ c ≠ '=' ∧ c ≠ '#' := by
    simpa [and_assoc] using h
  exact {
    tidy := {
      ne_nil := hne
      line := fun c hc => Text.isLineEnd_of_not_isBlank (hchars c hc).1
      head := fun c hc => (hchars c (List.mem_of_head? hc)).1
      last := fun c hc => (hchars c (List.mem_of_getLast? hc)).1 }
    noEquals := fun hmem => (hchars _ hmem).2.1 rfl
    noComment := fun hhead => (hchars _ (List.mem_of_head? hhead)).2.2 rfl }

/-- Lines that can be written. Those that say nothing are comments, with or without blanks before
them, and lines without an equals sign, of which blank ones are some. -/
inductive Line.IsProper : Line → Prop
  | assignment {key value : String} {quoting : Quoting} (hkey : IsKey key.toList)
      (hvalue : IsValue quoting value.toList) : IsProper (.assignment key value quoting)
  | comment {blanks rest : List Char} (hblanks : ∀ c ∈ blanks, Text.isBlank c = true)
      (hline : ∀ c ∈ blanks ++ '#' :: rest, Text.isLineEnd c = false) :
      IsProper (.other (blanks ++ '#' :: rest))
  | silent {text : List Char} (hequals : '=' ∉ text)
      (hline : ∀ c ∈ text, Text.isLineEnd c = false) : IsProper (.other text)

variable {key value : String} {quoting : Quoting} {s : List Char}

theorem unquote_write (h : IsValue quoting s) : unquote (quoting.write s) = s := by
  have hdouble : Text.stripEnds (· == '"') s = s := by
    apply (h.quotes.mono _).stripEnds
    exact fun c hc => (Bool.or_eq_true _ _).mpr (.inl hc)
  have hsingle : Text.stripEnds (· == '\x27') s = s := by
    apply (h.quotes.mono _).stripEnds
    exact fun c hc => (Bool.or_eq_true _ _).mpr (.inr hc)
  unfold unquote Text.strip
  cases quoting with
  | double =>
    rw [Quoting.write, (Text.endsAvoid_enclosed rfl rfl s).stripEnds,
      Text.stripEnds_enclosed rfl rfl, hdouble, hsingle]
  | single =>
    rw [Quoting.write, (Text.endsAvoid_enclosed rfl rfl s).stripEnds,
      (Text.endsAvoid_enclosed rfl rfl s).stripEnds, Text.stripEnds_enclosed rfl rfl, hsingle]
  | bare => rw [Quoting.write, (h.blanks rfl).stripEnds, hdouble, hsingle]

theorem endsAvoid_assignment (hkey : IsKey key.toList) (hvalue : IsValue quoting value.toList) :
    Text.EndsAvoid Text.isBlank (Line.assignment key value quoting).chars := by
  have hlast : ∀ c, (quoting.write value.toList).getLast? = some c → Text.isBlank c = false := by
    intro c hc
    cases quoting with
    | double => exact Text.endsAvoid_enclosed rfl rfl _ c (.inr hc)
    | single => exact Text.endsAvoid_enclosed rfl rfl _ c (.inr hc)
    | bare => exact hvalue.blanks rfl c (.inr hc)
  rw [Line.chars]
  rintro c (hc | hc)
  · rw [List.head?_append_of_ne_nil _ hkey.tidy.ne_nil] at hc
    exact hkey.tidy.head c hc
  · rw [List.getLast?_append_of_ne_nil _ (List.cons_ne_nil _ _), List.getLast?_cons,
      Option.some.injEq] at hc
    -- Nothing follows the equals sign if the value is empty and has no quotes.
    cases hw : (quoting.write value.toList).getLast? with
    | none =>
      rw [hw] at hc
      rw [← hc]
      rfl
    | some d =>
      rw [hw] at hc
      exact hlast c (hw.trans (congrArg some hc))

theorem ofLine?_assignment (hkey : IsKey key.toList) (hvalue : IsValue quoting value.toList) :
    ofLine? (Line.assignment key value quoting).chars = some (key, value) := by
  have hstrip : Text.strip (Line.assignment key value quoting).chars =
      key.toList ++ '=' :: quoting.write value.toList :=
    (endsAvoid_assignment hkey hvalue).stripEnds
  have hplain : ∀ c ∈ key.toList, decide (c ≠ '=') = true := by
    intro c hc
    rw [decide_eq_true_eq]
    rintro rfl
    exact hkey.noEquals hc
  -- The line is not empty, not a comment, and has an equals sign.
  have hassigned : ((key.toList ++ '=' :: quoting.write value.toList).isEmpty ||
      (key.toList ++ '=' :: quoting.write value.toList).head? = some '#' ||
      !(key.toList ++ '=' :: quoting.write value.toList).contains '=') = false := by
    rw [List.head?_append_of_ne_nil _ hkey.tidy.ne_nil]
    simp [hkey.noComment]
  have hkeyStrip : Text.strip key.toList = key.toList :=
    Text.stripEnds_of_ends hkey.tidy.head hkey.tidy.last
  unfold ofLine?
  rw [hstrip]
  dsimp only
  rw [hassigned, if_neg (by decide), List.takeWhile_append_of_pos hplain,
    List.dropWhile_append_of_pos hplain, List.takeWhile_cons_of_neg (by decide),
    List.dropWhile_cons_of_neg (by decide), List.append_nil, List.drop_one, List.tail_cons,
    hkeyStrip, unquote_write hvalue, String.ofList_toList, String.ofList_toList]

theorem ofLine?_of_silent (h : '=' ∉ s) : ofLine? s = none := by
  have hcontains : (Text.strip s).contains '=' = false := by
    rw [← Bool.not_eq_true, List.contains_iff_mem]
    exact fun hmem => h (Text.mem_of_mem_stripEnds hmem)
  simp only [ofLine?, hcontains, Bool.not_false, Bool.or_true, if_true]

theorem ofLine?_of_comment (h : (Text.strip s).head? = some '#') : ofLine? s = none := by
  simp only [ofLine?, h, decide_true, Bool.or_true, Bool.true_or, if_true]

theorem ofLine?_chars {l : Line} (h : l.IsProper) : ofLine? l.chars = l.assignment? := by
  cases h with
  | assignment hkey hvalue => exact ofLine?_assignment hkey hvalue
  | comment hblanks _ =>
    apply ofLine?_of_comment
    exact Text.head?_stripEnds_append hblanks rfl
  | silent hequals _ => exact ofLine?_of_silent hequals

theorem isLineEnd_of_mem_chars {l : Line} (h : l.IsProper) :
    ∀ c ∈ l.chars, Text.isLineEnd c = false := by
  cases h with
  | assignment hkey hvalue =>
    intro c hc
    rw [Line.chars, List.mem_append, List.mem_cons] at hc
    rcases hc with hc | rfl | hc
    · exact hkey.tidy.line c hc
    · rfl
    · rcases mem_write hc with hc | rfl | rfl
      · exact hvalue.line c hc
      · rfl
      · rfl
  | comment _ hline => exact hline
  | silent _ hline => exact hline

def assignments (ls : List Line) : List (String × String) := ls.filterMap Line.assignment?

def written (ls : List Line) : List Char := (ls.map Line.chars).flatMap (· ++ ['\n'])

variable {ls : List Line}

theorem lines_written (h : ∀ l ∈ ls, l.IsProper) : Text.lines (written ls) = ls.map Line.chars := by
  apply Text.lines_flatMap
  intro s hs
  obtain ⟨l, hl, rfl⟩ := List.mem_map.mp hs
  exact isLineEnd_of_mem_chars (h l hl)

/-- A text is read by its lines alone. -/
theorem ofText_of_lines (h : ∀ l ∈ ls, l.IsProper) {text : List Char}
    (htext : Text.lines text = ls.map Line.chars) :
    ofText text = ofAssignments (assignments ls) := by
  rw [ofText, assignments, htext, List.filterMap_map]
  congr 1
  apply List.filterMap_congr
  intro l hl
  exact ofLine?_chars (h l hl)

theorem readText_of_encoded {v : View} {path : String} {text : List Char}
    (h : v.readBytes path = .ok (Text.Utf8.encode text)) :
    v.readText path = .ok (Text.unifyLineEnds text) := by
  rw [View.readText, h]
  exact congrArg (Except.ok <| Text.unifyLineEnds ·) (Text.Utf8.replace_encode text)

/-- A stored file is read by its lines, whatever ends them. -/
theorem release_of_lines (h : ∀ l ∈ ls, l.IsProper) {text : List Char}
    (htext : Text.lines text = ls.map Line.chars) {v : View}
    (hv : v.readBytes releasePath = .ok (Text.Utf8.encode text)) (key : String) :
    v.release key =
      match lastValue? (assignments ls) ("KAIROS_" ++ key), lastValue? (assignments ls) key with
      | some value, _ => .ok value
      | none, some value => .ok value
      | none, none => .error (.missingKey key) := by
  have hread : ofText (Text.unifyLineEnds text) = ofAssignments (assignments ls) :=
    ofText_of_lines h ((Text.lines_unifyLineEnds text).trans htext)
  have hpreferred : (ofText (Text.unifyLineEnds text)).preferred? key =
      (lastValue? (assignments ls) ("KAIROS_" ++ key)).or (lastValue? (assignments ls) key) := by
    rw [hread, preferred?, get?, get?, lookup_ofAssignments, lookup_ofAssignments]
  unfold View.release
  rw [readText_of_encoded hv]
  simp only [bind, Except.bind, hpreferred]
  cases lastValue? (assignments ls) ("KAIROS_" ++ key) with
  | some value => rfl
  | none => cases lastValue? (assignments ls) key <;> rfl

/-- A written file is read as its assignments: each key with its last value, in the order in which
the keys first come. The distribution's own variant of a key is preferred to the key. -/
theorem ofText_written (h : ∀ l ∈ ls, l.IsProper) :
    Text.lines (written ls) = ls.map Line.chars ∧
    ∀ text, Text.lines text = ls.map Line.chars →
      (ofText text).map Prod.fst = ((assignments ls).map Prod.fst).eraseDups ∧
      (∀ key, (ofText text).get? key = lastValue? (assignments ls) key) ∧
      ∀ v : View, v.readBytes releasePath = .ok (Text.Utf8.encode text) → ∀ key,
        v.release key =
          match lastValue? (assignments ls) ("KAIROS_" ++ key),
            lastValue? (assignments ls) key with
          | some value, _ => .ok value
          | none, some value => .ok value
          | none, none => .error (.missingKey key) := by
  refine ⟨lines_written h, fun text htext => ⟨?_, fun key => ?_, fun v hv key => ?_⟩⟩
  · rw [ofText_of_lines h htext, keys_ofAssignments]
  · rw [ofText_of_lines h htext, get?, lookup_ofAssignments]
  · exact release_of_lines h htext hv key

def sampleLines : List Line := [
  .other "  # FLAVOR=old".toList,
  .assignment "FLAVOR" "\t" .double,
  .assignment "NAME" "say \"a=b\", it's #1" .single,
  .other [],
  .assignment "KAIROS_FLAVOR" "" .bare,
  .other "no assignment".toList,
  .assignment "NAME" "core \x27x" .bare]

def released (text : List Char) : View :=
  { View.sample with host := { View.sample.host with
      files := ⟨.dir [("etc", .dir [("os-release", .file (Text.Utf8.encode text))])], []⟩ } }

theorem isProper_sampleLines : ∀ l ∈ sampleLines, l.IsProper := by
  have hflavor : IsKey "FLAVOR".toList := isKey_of_all (by decide) (by decide)
  have hname : IsKey "NAME".toList := isKey_of_all (by decide) (by decide)
  have hown : IsKey "KAIROS_FLAVOR".toList := isKey_of_all (by decide) (by decide)
  have hblanks : ∀ c ∈ "  ".toList, Text.isBlank c = true := List.all_eq_true.mp (by decide)
  simp only [sampleLines, List.forall_mem_cons]
  exact ⟨@Line.IsProper.comment _ " FLAVOR=old".toList hblanks (Text.forall_of_all (by decide)),
    .assignment hflavor ⟨Text.forall_of_all (by decide), by decide, by decide⟩,
    .assignment hname ⟨Text.forall_of_all (by decide), by decide, by decide⟩,
    .silent (by decide) (Text.forall_of_all (by decide)),
    .assignment hown ⟨Text.forall_of_all (by decide), by decide, by decide⟩,
    .silent (by decide) (Text.forall_of_all (by decide)),
    .assignment hname ⟨Text.forall_of_all (by decide), by decide, by decide⟩, by simp⟩

theorem sampleLines_written : (∀ l ∈ sampleLines, l.IsProper) ∧
    (ofText (written sampleLines)).map Prod.fst = ["FLAVOR", "NAME", "KAIROS_FLAVOR"] ∧
    (ofText (written sampleLines)).get? "NAME" = some "core \x27x" ∧
    (released (written sampleLines)).release "FLAVOR" = .ok "" ∧
    (released (written sampleLines)).release "NAME" = .ok "core \x27x" ∧
    (released (written sampleLines)).release "VERSION" = .error (.missingKey "VERSION") := by
  obtain ⟨hlines, hread⟩ := ofText_written isProper_sampleLines
  obtain ⟨hkeys, hvalues, hrelease⟩ := hread _ hlines
  have hstored := hrelease (released (written sampleLines)) rfl
  exact ⟨isProper_sampleLines, hkeys.trans (by decide), (hvalues _).trans (by decide),
    hstored _, hstored _, hstored _⟩

end Release

end HostSnapshot
