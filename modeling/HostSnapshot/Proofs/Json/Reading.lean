import HostSnapshot.Proofs.Json.Exact
import HostSnapshot.Proofs.Json.Leaf

namespace HostSnapshot.Json

/-- Only blanks stand after the commas and colons of the style. -/
structure Style.IsReadable (style : Style) : Prop where
  comma : ∃ s, s.all isSpace = true ∧ style.comma = ',' :: s
  colon : ∃ s, s.all isSpace = true ∧ style.colon = ':' :: s

theorem Style.spaced_isReadable : Style.spaced.IsReadable :=
  ⟨⟨[' '], rfl, rfl⟩, ⟨[' '], rfl, rfl⟩⟩

theorem Style.indented_isReadable (columns : Nat) : (Style.indented columns).IsReadable :=
  ⟨⟨[], rfl, rfl⟩, ⟨[' '], rfl, rfl⟩⟩

theorem skipSpaces_append {s : List Char} (h : s.all isSpace = true) (t : List Char) :
    skipSpaces (s ++ t) = skipSpaces t :=
  List.dropWhile_append_of_pos (List.all_eq_true.mp h)

theorem skipSpaces_cons {c : Char} (h : isSpace c = false) (s : List Char) :
    skipSpaces (c :: s) = c :: s := by
  simp [skipSpaces, h]

theorem Style.all_newline (style : Style) (level : Nat) :
    (style.newline level).all isSpace = true := by
  unfold Style.newline
  split
  · rfl
  · simp [isSpace]

theorem intChars_eq_cons (n : Int) :
    ∃ c s, intChars n = c :: s ∧ (c = '-' ∨ Text.isAsciiDigit c = true) := by
  unfold intChars
  split
  · exact ⟨_, _, rfl, .inl rfl⟩
  · cases hds : Number.decimal n.natAbs with
    | nil => exact absurd hds Nat.toDigits_ne_nil
    | cons d ds => exact ⟨d, ds, rfl, .inr (isAsciiDigit_of_mem_decimal (hds ▸ List.mem_cons_self))⟩

theorem isSpace_of_isAsciiDigit {c : Char} (h : Text.isAsciiDigit c = true) :
    isSpace c = false := by
  apply Bool.eq_false_iff.mpr
  intro hs
  simp only [isSpace, Bool.or_eq_true, beq_iff_eq] at hs
  rcases hs with ((rfl | rfl) | rfl) | rfl <;> simp [Text.isAsciiDigit] at h

theorem chars_eq_cons (style : Style) (level : Nat) {v : Json} (hv : isExact v = true) :
    ∃ c s, chars style level v = c :: s ∧ isSpace c = false ∧ c ≠ ']' := by
  match v with
  | null => exact ⟨_, _, rfl, rfl, by decide⟩
  | bool true => exact ⟨_, _, rfl, rfl, by decide⟩
  | bool false => exact ⟨_, _, rfl, rfl, by decide⟩
  | int n =>
    obtain ⟨c, s, hc, h⟩ := intChars_eq_cons n
    refine ⟨c, s, by rw [chars, leafChars, hc] <;> simp, ?_, ?_⟩
    · rcases h with rfl | h
      · rfl
      · exact isSpace_of_isAsciiDigit h
    · rintro rfl
      revert h
      decide
  | float x => simp [isExact] at hv
  | str s => exact ⟨_, _, rfl, rfl, by decide⟩
  | arr [] => exact ⟨_, _, rfl, rfl, by decide⟩
  | arr (_ :: _) => exact ⟨_, _, rfl, rfl, by decide⟩
  | obj [] => exact ⟨_, _, rfl, rfl, by decide⟩
  | obj (_ :: _) => exact ⟨_, _, rfl, rfl, by decide⟩

section Steps

variable {dialect : Dialect} {steps depth : Nat} {s r r' rest : List Char} {v : Json}

theorem readValue?_leaf (ha : s.head? ≠ some '[') (ho : s.head? ≠ some '{') :
    readValue? dialect (steps + 1) depth s = readLeaf? dialect s := by
  cases s with
  | nil => rfl
  | cons c s =>
    rw [readValue?]
    · intro _ h
      simp_all
    · intro _ h
      simp_all

theorem readValue?_items {vs : List Json} (hs : skipSpaces s = r) (hne : r.head? ≠ some ']')
    (hr : readItems? dialect steps depth r = some (vs, rest)) :
    readValue? dialect (steps + 1) (depth + 1) ('[' :: s) = some (.arr vs, rest) := by
  rw [readValue?, hs]
  split
  · simp at hne
  · simp [hr]

theorem readValue?_members {ms : List (String × Json)} (hs : skipSpaces s = r)
    (hne : r.head? ≠ some '}') (hr : readMembers? dialect steps depth r = some (ms, rest)) :
    readValue? dialect (steps + 1) (depth + 1) ('{' :: s) =
      some (.obj (Members.ofList ms), rest) := by
  rw [readValue?, hs]
  split
  · simp at hne
  · simp [hr]

theorem readItems?_last (hv : readValue? dialect steps depth s = some (v, r))
    (hr : skipSpaces r = ']' :: rest) :
    readItems? dialect (steps + 1) depth s = some ([v], rest) := by
  simp [readItems?, hv, hr]

theorem readItems?_more {vs : List Json} (hv : readValue? dialect steps depth s = some (v, r))
    (hr : skipSpaces r = ',' :: r')
    (hvs : readItems? dialect steps depth (skipSpaces r') = some (vs, rest)) :
    readItems? dialect (steps + 1) depth s = some (v :: vs, rest) := by
  simp [readItems?, hv, hr, hvs]

theorem readMembers?_last {k : String} (hs : skipSpaces s = ':' :: r)
    (hv : readValue? dialect steps depth (skipSpaces r) = some (v, r'))
    (hr : skipSpaces r' = '}' :: rest) :
    readMembers? dialect (steps + 1) depth (quoteChars k.toList ++ s) = some ([(k, v)], rest) := by
  have hk := readString?_quoteChars k.toList s
  simp [readMembers?, quoteChars, hk, hs, hv, hr]

theorem readMembers?_more {k : String} {ms : List (String × Json)} {r'' : List Char}
    (hs : skipSpaces s = ':' :: r)
    (hv : readValue? dialect steps depth (skipSpaces r) = some (v, r'))
    (hr : skipSpaces r' = ',' :: r'')
    (hms : readMembers? dialect steps depth (skipSpaces r'') = some (ms, rest)) :
    readMembers? dialect (steps + 1) depth (quoteChars k.toList ++ s) =
      some ((k, v) :: ms, rest) := by
  have hk := readString?_quoteChars k.toList s
  simp [readMembers?, quoteChars, hk, hs, hv, hr, hms]

end Steps

variable {dialect : Dialect} {style : Style}

/-- Values are read back by a reader that may begin `steps` values. -/
def ReadsValues (dialect : Dialect) (style : Style) (steps : Nat) : Prop :=
  ∀ (v : Json) (level depth : Nat) (rest : List Char),
    isExact v = true → dialect.takes v = true → nesting v ≤ depth →
    (chars style level v).length < steps → endsValue rest = true →
    readValue? dialect steps depth (chars style level v ++ rest) = some (v, rest)

def ReadsItems (dialect : Dialect) (style : Style) (steps : Nat) : Prop :=
  ∀ (v : Json) (vs : List Json) (level depth : Nat) (closing rest : List Char),
    areExact (v :: vs) = true → dialect.takesItems (v :: vs) = true →
    itemNesting (v :: vs) ≤ depth →
    (chars style level v ++ itemChars style level vs).length + 1 < steps →
    endsValue closing = true → skipSpaces closing = ']' :: rest →
    readItems? dialect steps depth (chars style level v ++ (itemChars style level vs ++ closing)) =
      some (v :: vs, rest)

def ReadsMembers (dialect : Dialect) (style : Style) (steps : Nat) : Prop :=
  ∀ (k : String) (v : Json) (ms : List (String × Json)) (level depth : Nat)
    (closing rest : List Char),
    membersExact ((k, v) :: ms) = true → dialect.takesMembers ((k, v) :: ms) = true →
    memberNesting ((k, v) :: ms) ≤ depth →
    (chars style level v ++ memberChars style level ms).length + 1 < steps →
    endsValue closing = true → skipSpaces closing = '}' :: rest →
    readMembers? dialect steps depth (quoteChars k.toList ++ (style.colon ++ (chars style level v ++
      (memberChars style level ms ++ closing)))) = some ((k, v) :: ms, rest)

theorem skipSpaces_newline (level : Nat) (s : List Char) :
    skipSpaces (style.newline level ++ s) = skipSpaces s :=
  skipSpaces_append (style.all_newline level) s

theorem skipSpaces_chars (level : Nat) {v : Json} (hv : isExact v = true) (s : List Char) :
    skipSpaces (chars style level v ++ s) = chars style level v ++ s := by
  obtain ⟨c, r, hc, hspace, -⟩ := chars_eq_cons style level hv
  rw [hc, List.cons_append, skipSpaces_cons hspace]

theorem chars_length_pos (style : Style) (level : Nat) {v : Json} (hv : isExact v = true) :
    0 < (chars style level v).length := by
  obtain ⟨c, r, hc, -⟩ := chars_eq_cons style level hv
  simp [hc]

theorem readsItems_succ (hstyle : style.IsReadable) {steps : Nat}
    (hvalues : ReadsValues dialect style steps) (hitems : ReadsItems dialect style steps) :
    ReadsItems dialect style (steps + 1) := by
  intro v vs level depth closing rest hx hw hn hl hclosing hrest
  obtain ⟨s, hs, hcomma⟩ := hstyle.comma
  simp only [areExact, Dialect.takesItems, Bool.and_eq_true] at hx hw
  simp only [itemNesting, Nat.max_le, List.length_append] at hn hl
  have hpos := chars_length_pos style level hx.1
  cases vs with
  | nil =>
    have hv := hvalues v level depth closing hx.1 hw.1 hn.1 (by omega) hclosing
    exact readItems?_last hv hrest
  | cons w ws =>
    have hmore : itemChars style level (w :: ws) ++ closing = ',' :: (s ++ (style.newline level ++
        (chars style level w ++ (itemChars style level ws ++ closing)))) := by
      simp [itemChars, hcomma]
    have hv := hvalues v level depth (itemChars style level (w :: ws) ++ closing) hx.1 hw.1 hn.1
      (by omega) (by rw [hmore]; rfl)
    simp only [itemChars, hcomma, List.length_append, List.length_cons] at hl
    have hws := hitems w ws level depth closing rest hx.2 hw.2 hn.2
      (by rw [List.length_append]; omega) hclosing hrest
    have hw' : isExact w = true := (Bool.and_eq_true _ _ ▸ hx.2).1
    apply readItems?_more hv
    · rw [hmore, skipSpaces_cons rfl]
    · rw [skipSpaces_append hs, skipSpaces_newline, skipSpaces_chars level hw']
      exact hws

theorem readsMembers_succ (hstyle : style.IsReadable) {steps : Nat}
    (hvalues : ReadsValues dialect style steps) (hmembers : ReadsMembers dialect style steps) :
    ReadsMembers dialect style (steps + 1) := by
  intro k v ms level depth closing rest hx hw hn hl hclosing hrest
  obtain ⟨s, hs, hcomma⟩ := hstyle.comma
  obtain ⟨t, ht, hcolon⟩ := hstyle.colon
  simp only [membersExact, Dialect.takesMembers, Bool.and_eq_true] at hx hw
  simp only [memberNesting, Nat.max_le, List.length_append] at hn hl
  have hpos := chars_length_pos style level hx.1
  have hkey (u : List Char) : skipSpaces (style.colon ++ u) = ':' :: (t ++ u) := by
    rw [hcolon, List.cons_append, skipSpaces_cons rfl]
  have hvalue (u : List Char) : skipSpaces (t ++ (chars style level v ++ u)) =
      chars style level v ++ u := by
    rw [skipSpaces_append ht, skipSpaces_chars level hx.1]
  -- The last member is followed by what closes the object, any other one by a comma.
  cases ms with
  | nil =>
    have hv := hvalues v level depth closing hx.1 hw.1 hn.1 (by omega) hclosing
    apply readMembers?_last (hkey _)
    · rw [hvalue]
      exact hv
    · exact hrest
  | cons m ms =>
    obtain ⟨k', w⟩ := m
    have hmore : memberChars style level ((k', w) :: ms) ++ closing =
        ',' :: (s ++ (style.newline level ++ (quoteChars k'.toList ++ (style.colon ++
          (chars style level w ++ (memberChars style level ms ++ closing)))))) := by
      simp [memberChars, hcomma]
    have hv := hvalues v level depth (memberChars style level ((k', w) :: ms) ++ closing) hx.1
      hw.1 hn.1 (by omega) (by rw [hmore]; rfl)
    simp only [memberChars, hcomma, List.length_append, List.length_cons] at hl
    have hms := hmembers k' w ms level depth closing rest hx.2 hw.2 hn.2
      (by rw [List.length_append]; omega) hclosing hrest
    apply readMembers?_more (hkey _)
    · rw [hvalue]
      exact hv
    · rw [hmore, skipSpaces_cons rfl]
    · rw [skipSpaces_append hs, skipSpaces_newline]
      exact hms

theorem endsValue_newline {c : Char} (level : Nat) {s : List Char}
    (h : endsValue (c :: s) = true) : endsValue (style.newline level ++ c :: s) = true := by
  unfold Style.newline
  split
  · exact h
  · rfl

theorem readValue?_intChars {n : Int} (hn : dialect.takes (.int n) = true) {steps depth : Nat}
    {rest : List Char} (h : endsValue rest = true) :
    readValue? dialect (steps + 1) depth (intChars n ++ rest) = some (.int n, rest) := by
  obtain ⟨c, s, hc, hdigit⟩ := intChars_eq_cons n
  have hne {d : Char} (hd : d ≠ '-') (hd' : Text.isAsciiDigit d = false) :
      (intChars n ++ rest).head? ≠ some d := by
    rw [hc]
    rintro ⟨⟩
    simp_all
  rw [readValue?_leaf (hne (by decide) (by decide)) (hne (by decide) (by decide)),
    readLeaf?_intChars hn h]

theorem readsValues_succ {steps : Nat} (hitems : ReadsItems dialect style steps)
    (hmembers : ReadsMembers dialect style steps) : ReadsValues dialect style (steps + 1) := by
  intro v level depth rest hx hw hn hl hrest
  match v with
  | null => rfl
  | bool true => rfl
  | bool false => rfl
  | int n =>
    rw [chars, leafChars]
    · exact readValue?_intChars hw hrest
    · simp
    · simp
  | float x => simp [isExact] at hx
  | str s =>
    rw [chars, leafChars]
    · rw [readValue?_leaf (by simp [quoteChars]) (by simp [quoteChars]), readLeaf?_quoteChars]
    · simp
    · simp
  | arr [] => rfl
  | obj [] => rfl
  | arr (v :: vs) =>
    simp only [isExact, Dialect.takes] at hx hw
    simp only [nesting] at hn
    -- One level is used up, and the items are read with the steps that are left.
    obtain ⟨depth, rfl⟩ : ∃ d, depth = d + 1 := ⟨depth - 1, by omega⟩
    simp only [chars, List.length_append, List.length_cons] at hl
    have hvs := hitems v vs (level + 1) depth (style.newline level ++ ']' :: rest) rest hx hw
      (by omega) (by rw [List.length_append]; omega) (endsValue_newline level rfl)
      (by rw [skipSpaces_newline, skipSpaces_cons rfl])
    have hv : isExact v = true := (Bool.and_eq_true _ _ ▸ hx : _ ∧ _).1
    obtain ⟨c, s, hc, -, hbracket⟩ := chars_eq_cons style (level + 1) hv
    simp only [chars, List.cons_append, List.append_assoc, List.nil_append]
    apply readValue?_items _ _ hvs
    · rw [skipSpaces_newline, skipSpaces_chars _ hv]
    · simpa [hc] using hbracket
  | obj ((k, v) :: ms) =>
    simp only [isExact, Dialect.takes, Bool.and_eq_true, decide_eq_true_eq] at hx hw
    simp only [nesting] at hn
    obtain ⟨depth, rfl⟩ : ∃ d, depth = d + 1 := ⟨depth - 1, by omega⟩
    simp only [chars, List.length_append, List.length_cons] at hl
    have hms := hmembers k v ms (level + 1) depth (style.newline level ++ '}' :: rest) rest hx.2 hw
      (by omega) (by rw [List.length_append]; omega) (endsValue_newline level rfl)
      (by rw [skipSpaces_newline, skipSpaces_cons rfl])
    simp only [chars, List.cons_append, List.append_assoc, List.nil_append]
    rw [← Members.ofList_of_nodup hx.1]
    apply readValue?_members _ _ hms
    · rw [skipSpaces_newline]
      rfl
    · simp [quoteChars]

/-- A written value is read back, whatever ends it. -/
theorem reads_chars (dialect : Dialect) (hstyle : style.IsReadable) (steps : Nat) :
    ReadsValues dialect style steps ∧ ReadsItems dialect style steps ∧
      ReadsMembers dialect style steps := by
  -- A value takes its items and members one step further down, so all three go together.
  induction steps with
  | zero =>
    refine ⟨?_, ?_, ?_⟩
    · intro v level depth rest _ _ _ hl
      omega
    · intro v vs level depth closing rest _ _ _ hl
      omega
    · intro k v ms level depth closing rest _ _ _ hl
      omega
  | succ steps ih =>
    obtain ⟨hvalues, hitems, hmembers⟩ := ih
    exact ⟨readsValues_succ hitems hmembers, readsItems_succ hstyle hvalues hitems,
      readsMembers_succ hstyle hvalues hmembers⟩

/-- Reading undoes writing, as long as the reader takes values that nest so deeply. -/
theorem ofCharsIn?_chars (hstyle : style.IsReadable) {v : Json} {depth : Nat}
    (hx : v.isExact = true) (ht : dialect.takes v = true) (hn : v.nesting ≤ depth)
    {blanks : List Char} (hb : blanks.all isSpace = true) :
    ofCharsIn? dialect depth (chars style 0 v ++ blanks) = some v := by
  have hskip : skipSpaces blanks = [] := by
    have h := skipSpaces_append hb []
    rwa [List.append_nil] at h
  have hends : endsValue blanks = true := by
    cases blanks with
    | nil => rfl
    | cons c s => simp_all [endsValue]
  have hread := (reads_chars dialect hstyle (2 * (chars style 0 v ++ blanks).length + 2)).1 v 0
    depth blanks hx ht hn (by rw [List.length_append]; omega) hends
  rw [ofCharsIn?, skipSpaces_chars 0 hx, hread]
  simp [hskip]

theorem ofChars?_chars (hstyle : style.IsReadable) {v : Json} {depth : Nat}
    (hx : v.isExact = true) (hw : v.isWritable = true) (hn : v.nesting ≤ depth)
    {blanks : List Char} (hb : blanks.all isSpace = true) :
    ofChars? depth (chars style 0 v ++ blanks) = some v :=
  ofCharsIn?_chars hstyle hx (by rwa [Dialect.takes_plain]) hn hb

theorem ofText?_render (hstyle : style.IsReadable) {v : Json} (hx : v.isExact = true)
    (hw : v.isWritable = true) (hn : v.nesting ≤ maxDepth) :
    ofText? (v.render style) = some v := by
  have hread : ofChars? maxDepth (chars style 0 v ++ []) = some v :=
    ofChars?_chars hstyle hx hw hn rfl
  rw [List.append_nil] at hread
  rw [ofText?, render, String.toList_ofList, hread]

/-- What a tool writes is read back when its integers are short enough with their signs. -/
theorem ofOutput?_render (hstyle : style.IsReadable) {v : Json} (hx : v.isExact = true)
    (ht : Dialect.strict.takes v = true) (hn : v.nesting ≤ maxDepth) :
    ofOutput? (v.render style) = some v := by
  have hread : ofCharsIn? .strict maxDepth (chars style 0 v ++ []) = some v :=
    ofCharsIn?_chars hstyle hx ht hn rfl
  rw [List.append_nil] at hread
  rw [ofOutput?, render, String.toList_ofList, hread]

/-- What follows a written value tells nothing about it: the text determines both. -/
theorem chars_append_inj (hstyle : style.IsReadable) {v v' : Json}
    (hx : v.isExact = true) (hx' : v'.isExact = true)
    (hw : v.isWritable = true) (hw' : v'.isWritable = true) {r r' : List Char}
    (hr : endsValue r = true) (hr' : endsValue r' = true)
    (h : chars style 0 v ++ r = chars style 0 v' ++ r') : v = v' ∧ r = r' := by
  rw [← Dialect.takes_plain] at hw hw'
  have hread (u : Json) := (reads_chars .plain hstyle
    ((chars style 0 v).length + (chars style 0 v').length + 1)).1 u 0 (max v.nesting v'.nesting)
  have hv := hread v r hx hw (Nat.le_max_left _ _) (by omega) hr
  have hv' := hread v' r' hx' hw' (Nat.le_max_right _ _) (by omega) hr'
  rw [h, hv'] at hv
  simpa [eq_comm] using hv

end HostSnapshot.Json
