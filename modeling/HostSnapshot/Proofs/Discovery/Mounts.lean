import HostSnapshot.Proofs.Discovery.Disks

namespace HostSnapshot

namespace Mounts

theorem unescape_ne_nil {s : List Char} (h : s ≠ []) : unescape s ≠ [] := by
  unfold unescape
  split
  · split <;> simp
  · simp
  · exact absurd rfl h

theorem point_of_ofLine? {line : List Char} {entry : String × Mount}
    (h : ofLine? line = some entry) : entry.2.point ≠ "" := by
  unfold ofLine? at h
  split at h
  · next device point type options rest hwords =>
    have hmem : point ∈ Text.words line := by
      rw [hwords]
      simp
    have hpoint : point ≠ [] := by
      rintro rfl
      simp [Text.words] at hmem
    cases h
    intro heq
    exact unescape_ne_nil hpoint (String.ofList_eq_empty_iff.mp heq)
  · cases h

theorem point_of_mem_ofEntries {entries : List (String × Mount)}
    (h : ∀ entry ∈ entries, entry.2.point ≠ "") :
    ∀ entry ∈ ofEntries entries, entry.2.point ≠ "" := by
  -- The fold over the entries, from any table that has all its points.
  have step (mounts : Mounts) (hmounts : ∀ entry ∈ mounts, entry.2.point ≠ "") :
      ∀ entry ∈ entries.foldl add mounts, entry.2.point ≠ "" := by
    induction entries generalizing mounts with
    | nil => exact hmounts
    | cons e entries ih =>
      rw [List.forall_mem_cons] at h
      apply ih h.2
      unfold add
      split
      · exact hmounts
      · intro entry hentry
        rcases List.mem_append.mp hentry with hentry | hentry
        · exact hmounts entry hentry
        · rw [List.mem_singleton.mp hentry]
          exact h.1
  exact step [] (by simp)

theorem point_of_lookup {mounts : Mounts} (h : ∀ entry ∈ mounts, entry.2.point ≠ "") {key : String}
    {mount : Mount} (hm : mounts.lookup key = some mount) : mount.point ≠ "" := by
  obtain ⟨l, r, hl, -⟩ := List.lookup_eq_some_iff.mp hm
  exact h (key, mount) (by simp [hl])

end Mounts

theorem View.point_of_mounts {v : View} {mounts : Mounts} (h : v.mounts.outcome = .ok mounts) :
    ∀ entry ∈ mounts, entry.2.point ≠ "" := by
  rcases Traced.eq_ok_or_of_outcome_orDefault h with h | rfl
  · cases hs : v.readText mountsPath with
    | error e =>
      rw [hs] at h
      cases h
    | ok s =>
      rw [hs] at h
      cases h
      apply Mounts.point_of_mem_ofEntries
      intro entry hentry
      obtain ⟨line, -, hline⟩ := List.mem_filterMap.mp hentry
      exact Mounts.point_of_ofLine? hline
  · simp

theorem Device.mountPoint_eq_empty {mounts : Mounts} (h : ∀ entry ∈ mounts, entry.2.point ≠ "")
    (d : Device) : (d.asPartition mounts).mountPoint = "" ↔
      mounts.lookup (deviceFile d.name) = none := by
  unfold asPartition
  dsimp only
  cases hm : mounts.lookup (deviceFile d.name) with
  | none => simp
  | some mount => simpa using Mounts.point_of_lookup h hm

end HostSnapshot
