import HostSnapshot.Proofs.Snapshot.RoundTrip
import HostSnapshot.Proofs.Snapshot.Scalar
import HostSnapshot.Proofs.Traced

namespace HostSnapshot

/-- Whether a key can be told from the rest of its line. -/
def isLineKey (key : String) : Bool :=
  !key.toList.contains ':' && !key.toList.contains '\n' && key.toList.head? != some ' '

namespace TextLine

def chars (l : TextLine) : List Char :=
  List.replicate (4 * l.depth) ' ' ++ (l.key.toList ++ ':' :: match l.leaf with
    | none => ['\n']
    | some v => ' ' :: (v.scalar.toList ++ ['\n']))

def isWritable (l : TextLine) : Bool := l.leaf.all Json.isWritable

/-- A line from whose text its parts can be told. -/
structure IsLegible (l : TextLine) : Prop where
  key : isLineKey l.key = true
  leaf : ∀ v, l.leaf = some v → v.isExact = true

theorem head_key {k : String} (hk : isLineKey k = true) (s : List Char) :
    (k.toList ++ ':' :: s).head? ≠ some ' ' ∧ (k.toList ++ ':' :: s).head? ≠ some '\n' := by
  simp only [isLineKey, Bool.and_eq_true, Bool.not_eq_true', bne_iff_ne] at hk
  cases hks : k.toList with
  | nil => simp
  | cons c cs =>
    have hc : c ≠ '\n' := by
      rintro rfl
      simp [hks] at hk
    simp_all

theorem chars_head {l : TextLine} (hl : l.IsLegible) (r : List Char) :
    (l.chars ++ r).head? ≠ some '\n' := by
  rw [chars]
  cases 4 * l.depth with
  | zero =>
    rw [List.replicate_zero, List.nil_append, List.append_assoc, List.cons_append]
    exact (head_key hl.key _).2
  | succ n => simp [List.replicate_succ]

theorem chars_append_inj {l l' : TextLine} (hl : l.IsLegible) (hl' : l'.IsLegible)
    (hw : l.isWritable = true) (hw' : l'.isWritable = true) {r r' : List Char}
    (hr : r.head? ≠ some '\n') (hr' : r'.head? ≠ some '\n')
    (h : l.chars ++ r = l'.chars ++ r') : l = l' ∧ r = r' := by
  obtain ⟨d, k, leaf⟩ := l
  obtain ⟨d', k', leaf'⟩ := l'
  have hk := hl.key
  have hk' := hl'.key
  -- The depth ends where the spaces do, and the key at its colon.
  simp only [chars, List.append_assoc, List.cons_append] at h
  obtain ⟨hdepth, hline⟩ := Text.replicate_append_inj (head_key hk _).1 (head_key hk' _).1 h
  simp only [isLineKey, Bool.and_eq_true, Bool.not_eq_true', List.contains_eq_mem,
    decide_eq_false_iff_not] at hk hk'
  obtain ⟨hkey, hleaf⟩ := Text.append_cons_inj hk.1.1 hk'.1.1 hline
  have hd : d = d' := by omega
  have hkk := String.toList_inj.mp hkey
  subst hd hkk
  cases leaf with
  | none =>
    cases leaf' with
    | none => exact ⟨rfl, by simpa using hleaf⟩
    | some v' => simp at hleaf
  | some v =>
    cases leaf' with
    | none => simp at hleaf
    | some v' =>
      simp only [List.cons_append, List.append_assoc, List.nil_append, List.cons.injEq,
        true_and] at hleaf
      have hinj := Json.scalar_append_inj (hl.leaf v rfl) (hl'.leaf v' rfl) hw hw' hr hr' hleaf
      exact ⟨by rw [hinj.1], hinj.2⟩

theorem flatMap_head {ls : List TextLine} (hls : ∀ l ∈ ls, l.IsLegible) :
    (ls.flatMap chars).head? ≠ some '\n' := by
  cases ls with
  | nil => simp
  | cons l ls => exact chars_head (hls l List.mem_cons_self) _

theorem flatMap_chars_inj {ls ls' : List TextLine} (hls : ∀ l ∈ ls, l.IsLegible)
    (hls' : ∀ l ∈ ls', l.IsLegible) (hw : ls.all isWritable = true)
    (hw' : ls'.all isWritable = true) (h : ls.flatMap chars = ls'.flatMap chars) : ls = ls' := by
  have hne (l : TextLine) (r : List Char) : l.chars ++ r ≠ [] := by
    simp [chars]
  induction ls generalizing ls' with
  | nil =>
    cases ls' with
    | nil => rfl
    | cons l' ls' => exact absurd h.symm (hne l' _)
  | cons l ls ih =>
    cases ls' with
    | nil => exact absurd h (hne l _)
    | cons l' ls' =>
      simp only [List.forall_mem_cons] at hls hls'
      simp only [List.all_cons, Bool.and_eq_true] at hw hw'
      obtain ⟨rfl, htail⟩ := chars_append_inj hls.1 hls'.1 hw.1 hw'.1 (flatMap_head hls.2)
        (flatMap_head hls'.2) h
      rw [ih hls.2 hls'.2 hw.2 hw'.2 htail]

end TextLine

namespace Json

mutual

theorem textLines_depth : ∀ (v : Json) (d : Nat), ∀ l ∈ textLines d v, d ≤ l.depth
  | .obj ms, d => memberLines_depth ms d
  | .null, d => by simp [textLines]
  | .bool _, d => by simp [textLines]
  | .int _, d => by simp [textLines]
  | .float _, d => by simp [textLines]
  | .str _, d => by simp [textLines]
  | .arr _, d => by simp [textLines]

theorem memberLines_depth :
    ∀ (ms : List (String × Json)) (d : Nat), ∀ l ∈ memberLines d ms, d ≤ l.depth
  | [], d => by simp [memberLines]
  | (k, v) :: ms, d => by
    intro l hl
    rw [memberLines, List.mem_append, List.mem_cons] at hl
    rcases hl with (rfl | hl) | hl
    · exact Nat.le_refl d
    · have h := textLines_depth v (d + 1) l hl
      omega
    · exact memberLines_depth ms d l hl

end

/-- The lines below a key end where a line stands as high as the key. -/
theorem append_memberLines_inj {d : Nat} {ms ms' : List (String × Json)} {ls ls' : List TextLine}
    (hls : ∀ l ∈ ls, d < l.depth) (hls' : ∀ l ∈ ls', d < l.depth)
    (h : ls ++ memberLines d ms = ls' ++ memberLines d ms') :
    ls = ls' ∧ memberLines d ms = memberLines d ms' := by
  -- The lines below the key are those that stand deeper, up to the next one that does not.
  have below (ls : List TextLine) (hls : ∀ l ∈ ls, d < l.depth) (ms : List (String × Json)) :
      (ls ++ memberLines d ms).takeWhile (fun l => d < l.depth) = ls := by
    rw [List.takeWhile_append_of_pos fun l hl => decide_eq_true (hls l hl)]
    cases ms with
    | nil => simp [memberLines]
    | cons m ms => simp [memberLines]
  have heq : ls = ls' := by
    rw [← below ls hls ms, h, below ls' hls' ms']
  subst heq
  exact ⟨rfl, List.append_cancel_left h⟩

theorem leaf?_eq_some {v w : Json} (h : v.leaf? = some w) : w = v := by
  unfold leaf? at h
  split at h
  · cases h
  · exact (Option.some.inj h).symm

mutual

theorem textLines_inj : ∀ (v v' : Json) (d : Nat), v.leaf? = none → v'.leaf? = none →
    textLines d v = textLines d v' → v = v'
  | .obj (m :: ms), .obj (m' :: ms'), d, _, _, h => by
    rw [memberLines_inj (m :: ms) (m' :: ms') d h]

theorem memberLines_inj : ∀ (ms ms' : List (String × Json)) (d : Nat),
    memberLines d ms = memberLines d ms' → ms = ms'
  | [], [], _, _ => rfl
  | [], (_, _) :: _, _, h => by simp [memberLines] at h
  | (_, _) :: _, [], _, h => by simp [memberLines] at h
  | (k, v) :: ms, (k', v') :: ms', d, h => by
    simp only [memberLines, List.cons_append, List.cons.injEq, TextLine.mk.injEq] at h
    obtain ⟨⟨-, rfl, hleaf⟩, hbelow⟩ := h
    obtain ⟨hv, hms⟩ := append_memberLines_inj (textLines_depth v (d + 1))
      (textLines_depth v' (d + 1)) hbelow
    rw [memberLines_inj ms ms' d hms]
    -- A key without a leaf has an object with members below it.
    cases hl : v.leaf? with
    | none => rw [textLines_inj v v' (d + 1) hl (hleaf ▸ hl) hv]
    | some w =>
      have hl' : v'.leaf? = some w := hleaf ▸ hl
      rw [← leaf?_eq_some hl, ← leaf?_eq_some hl']

end

mutual

/-- Whether the keys of an object, and of the objects reached from it through members only, can be
told from their lines. -/
def hasLineKeys : Json → Bool
  | .obj ms => membersHaveLineKeys ms
  | _ => true

def membersHaveLineKeys : List (String × Json) → Bool
  | [] => true
  | (k, v) :: ms => isLineKey k && hasLineKeys v && membersHaveLineKeys ms

end

mutual

theorem textLines_legible : ∀ (v : Json) (d : Nat), v.isExact = true → v.hasLineKeys = true →
    ∀ l ∈ textLines d v, l.IsLegible
  | .obj ms, d, hx, hk => memberLines_legible ms d (by simp_all [isExact]) hk
  | .null, d, _, _ => by simp [textLines]
  | .bool _, d, _, _ => by simp [textLines]
  | .int _, d, _, _ => by simp [textLines]
  | .float _, d, _, _ => by simp [textLines]
  | .str _, d, _, _ => by simp [textLines]
  | .arr _, d, _, _ => by simp [textLines]

theorem memberLines_legible : ∀ (ms : List (String × Json)) (d : Nat), membersExact ms = true →
    membersHaveLineKeys ms = true → ∀ l ∈ memberLines d ms, l.IsLegible
  | [], d, _, _ => by simp [memberLines]
  | (k, v) :: ms, d, hx, hk => by
    simp only [membersExact, membersHaveLineKeys, Bool.and_eq_true] at hx hk
    intro l hl
    rw [memberLines, List.mem_append, List.mem_cons] at hl
    rcases hl with (rfl | hl) | hl
    · exact ⟨hk.1.1, fun w hw => leaf?_eq_some hw ▸ hx.1⟩
    · exact textLines_legible v (d + 1) hx.1 hk.1.2 l hl
    · exact memberLines_legible ms d hx.2 hk.2 l hl

end

end Json

theorem TextLine.write_plain (l : TextLine) : l.write .plain =
    if l.isWritable then .ok (String.ofList l.chars) else .error (.integer .tooLarge) := by
  obtain ⟨d, k, leaf⟩ := l
  cases leaf with
  | none =>
    change Except.ok _ = Except.ok _
    rw [Except.ok.injEq, ← String.toList_inj]
    simp [TextLine.chars]
  | some v =>
    have hleaf : TextLine.isWritable ⟨d, k, some v⟩ = v.isWritable := rfl
    rw [hleaf]
    by_cases hw : v.isWritable = true
    · simp only [TextLine.write, LeafWriter.write, if_pos hw]
      change Except.ok _ = Except.ok _
      rw [Except.ok.injEq, ← String.toList_inj]
      simp [TextLine.chars]
    · simp only [TextLine.write, LeafWriter.write, if_neg hw]
      rfl

/-- A rendering succeeds if all leaves can be written, and is then the text of its lines. -/
theorem TextLine.mapM_write_plain (ls : List TextLine) : ls.mapM (TextLine.write .plain) =
    if ls.all TextLine.isWritable then .ok ((ls.map TextLine.chars).map String.ofList)
    else .error (.integer .tooLarge) := by
  induction ls with
  | nil => rfl
  | cons l ls ih =>
    rw [List.mapM_cons, l.write_plain, ih, List.all_cons]
    by_cases hl : l.isWritable = true
    · rw [hl]
      by_cases hls : ls.all TextLine.isWritable = true
      · rw [hls]
        rfl
      · rw [Bool.not_eq_true] at hls
        rw [hls]
        rfl
    · rw [Bool.not_eq_true] at hl
      rw [hl]
      rfl

def Snapshot.lines (s : Snapshot) : List TextLine := Json.memberLines 0 s.mapping

theorem Snapshot.render_plain {s : Snapshot} (h : s.isShallow = true) :
    (s.render .plain).outcome =
      if s.lines.all TextLine.isWritable then .ok (String.ofList (s.lines.flatMap TextLine.chars))
      else .error (.malformedInteger .tooLarge) := by
  unfold Snapshot.render
  rw [Snapshot.dump_of_isShallow h, Traced.outcome_bind_of_ok (Traced.outcome_ofExcept _),
    Json.Members.textBy, TextLine.mapM_write_plain]
  change _ = if (Json.memberLines 0 s.mapping).all TextLine.isWritable then _ else _
  by_cases hw : (Json.memberLines 0 s.mapping).all TextLine.isWritable = true
  · rw [if_pos hw, if_pos hw]
    change Except.ok _ = Except.ok _
    rw [Except.ok.injEq, ← String.toList_inj]
    simp [String.toList_join, List.flatMap_map, Snapshot.lines]
  · rw [if_neg hw, if_neg hw]
    rfl

theorem Snapshot.isShallow_of_render {s : Snapshot} {text : String}
    (h : (s.render .plain).outcome = .ok text) : s.isShallow = true := by
  obtain ⟨ms, hms, -⟩ := Traced.outcome_bind_eq_ok.mp h
  exact (Snapshot.dump_eq_ok_iff.mp hms).1

theorem Snapshot.render_plain_eq_ok {s : Snapshot} {text : String}
    (h : (s.render .plain).outcome = .ok text) :
    s.lines.all TextLine.isWritable = true ∧ s.lines.flatMap TextLine.chars = text.toList := by
  rw [Snapshot.render_plain (Snapshot.isShallow_of_render h)] at h
  by_cases hw : s.lines.all TextLine.isWritable = true
  · rw [if_pos hw, Except.ok.injEq] at h
    exact ⟨hw, by rw [← h, String.toList_ofList]⟩
  · rw [if_neg hw] at h
    cases h

theorem Snapshot.lines_legible {s : Snapshot} (hx : (Json.obj s.system).isExact = true)
    (hk : (Json.obj s.system).hasLineKeys = true) : ∀ l ∈ s.lines, l.IsLegible := by
  have hsystem := Snapshot.shownMembers_system (Json.isFinite_of_isExact _ hx)
  have hvalues : Json.membersExact s.mapping = true := by
    simp only [Snapshot.mapping, Json.membersExact, hsystem, hx]
    rfl
  have hkeys : Json.membersHaveLineKeys s.mapping = true := by
    simp only [Snapshot.mapping, Json.membersHaveLineKeys, hsystem, hk]
    rfl
  exact Json.memberLines_legible _ 0 hvalues hkeys

/-- The rendering of a snapshot loses nothing: it determines the mapping, with the type of every
leaf and the order of the keys. -/
theorem Snapshot.render_injective {s t : Snapshot} (hs : (Json.obj s.system).isExact = true)
    (ht : (Json.obj t.system).isExact = true) (hks : (Json.obj s.system).hasLineKeys = true)
    (hkt : (Json.obj t.system).hasLineKeys = true) {text : String}
    (hsx : (s.render .plain).outcome = .ok text) (htx : (t.render .plain).outcome = .ok text) :
    s.mapping = t.mapping := by
  obtain ⟨hw, hlines⟩ := Snapshot.render_plain_eq_ok hsx
  obtain ⟨hw', hlines'⟩ := Snapshot.render_plain_eq_ok htx
  have heq : s.lines = t.lines :=
    TextLine.flatMap_chars_inj (Snapshot.lines_legible hs hks) (Snapshot.lines_legible ht hkt) hw
      hw' (hlines.trans hlines'.symm)
  exact Json.memberLines_inj _ _ 0 heq

def Snapshot.shown : Snapshot :=
  { Snapshot.sample with
    system := [
      ("node", .obj [("hostname", .str "kairos"), ("on", .str "on"), ("", .obj []),
        ("note", .str "two words\n"), ("serial", .str "40")]),
      ("cpu", .arr [.obj [("a: b\n", .int 40)], .null])] }

theorem Snapshot.shown_render_injective :
    (Json.obj Snapshot.shown.system).isExact = true ∧
    (Json.obj Snapshot.shown.system).hasLineKeys = true ∧
    ∃ text, (Snapshot.shown.render .plain).outcome = .ok text ∧
      ∀ t : Snapshot, t.system = Snapshot.shown.system → (t.render .plain).outcome = .ok text →
        t.mapping = Snapshot.shown.mapping := by
  have hexact : (Json.obj Snapshot.shown.system).isExact = true := by decide
  have hkeys : (Json.obj Snapshot.shown.system).hasLineKeys = true := by decide
  have hwritable : Snapshot.shown.lines.all TextLine.isWritable = true := by decide
  have htext := Snapshot.render_plain (s := Snapshot.shown) rfl
  rw [if_pos hwritable] at htext
  refine ⟨hexact, hkeys, _, htext, ?_⟩
  intro t ht htx
  exact Snapshot.render_injective (ht ▸ hexact) hexact (ht ▸ hkeys) hkeys htx htext

end HostSnapshot
