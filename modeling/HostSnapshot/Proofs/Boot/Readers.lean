import HostSnapshot.Proofs.Boot.Markers
import HostSnapshot.Proofs.Discovery.Capture
import HostSnapshot.Proofs.Text.Plain
import HostSnapshot.Proofs.Text.Utf8

namespace HostSnapshot.View

open Traced

variable {v : View} {bytes : List UInt8}

theorem readBoot_of_ok (h : v.readBytes commandLinePath = .ok bytes) : v.readBoot =
    .ok (Boot.classify (Text.unifyLineEnds (Text.Utf8.replace bytes))) := by
  unfold readBoot readText
  rw [h]
  rfl

theorem readBoot_of_error {e : Fault} (h : v.readBytes commandLinePath = .error e) :
    v.readBoot = .error e := by
  unfold readBoot readText
  rw [h]
  rfl

theorem detectBoot_of_isValid (h : v.readBytes commandLinePath = .ok bytes)
    (hvalid : Text.Utf8.IsValid bytes) :
    ∃ boot, v.readBoot = .ok boot ∧ v.detectBoot.outcome = .ok boot := by
  obtain ⟨s, rfl⟩ := hvalid
  have hstrict : v.readStrict commandLinePath = .ok (Text.unifyLineEnds s) := by
    unfold readStrict
    rw [h]
    simp only [bind, Except.bind, Text.Utf8.strict_eq_ok_iff.mpr rfl]
    rfl
  refine ⟨_, readBoot_of_ok h, ?_⟩
  unfold detectBoot
  rw [hstrict, Text.Utf8.replace_encode]
  rfl

theorem detectBoot_of_not_isValid (h : v.readBytes commandLinePath = .ok bytes)
    (hvalid : ¬ Text.Utf8.IsValid bytes) :
    ∃ place, v.detectBoot.outcome = .error (.undecodable place) := by
  obtain ⟨place, hplace⟩ := Text.Utf8.strict_of_not_isValid hvalid
  have hstrict : v.readStrict commandLinePath = .error (.undecodable place) := by
    unfold readStrict
    rw [h]
    simp only [bind, Except.bind, hplace]
    rfl
  refine ⟨place, ?_⟩
  unfold detectBoot
  rw [hstrict]
  rfl

theorem isSystem_of_readBytes {hostPath : String} {e : Fault}
    (h : v.readBytes hostPath = .error e) : e.isSystem = true ∨ e = .nullInPath := by
  unfold readBytes at h
  dsimp only at h
  split at h
  · cases h
    exact .inr rfl
  · cases hread : v.host.files.read (v.files.below hostPath) with
    | ok bytes =>
      rw [hread] at h
      cases h
    | error failure =>
      rw [hread] at h
      cases h
      cases failure <;> exact .inl rfl

theorem detectBoot_of_error {e : Fault} (h : v.readBytes commandLinePath = .error e) :
    v.detectBoot.outcome = if e.isSystem then .ok .unknown else .error e := by
  have hstrict : v.readStrict commandLinePath = .error e := by
    unfold readStrict
    rw [h]
    rfl
  unfold detectBoot
  rw [hstrict]
  split
  · next he => exact outcome_orDefault_of_isForgiven rfl he
  · next he => exact outcome_orDefault_of_not_isForgiven rfl he

/-- Where the system does not let the command line be read, the strict reader has an unknown boot;
only a path that no file can have is a fault of both. Where the lenient reader reads a boot, the
strict one has the same boot exactly if the bytes are UTF-8, and else fails at the place where they
are not. -/
theorem detectBoot_agrees (v : View) :
    (∀ e, v.readBoot = .error e →
      e.isSystem = true ∧ v.detectBoot.outcome = .ok .unknown ∨
      e = .nullInPath ∧ v.detectBoot.outcome = .error .nullInPath) ∧
    ((∀ boot, v.readBoot = .ok boot → v.detectBoot.outcome = .ok boot) ↔
      ∀ bytes, v.readBytes commandLinePath = .ok bytes → Text.Utf8.IsValid bytes) ∧
    ∀ bytes, v.readBytes commandLinePath = .ok bytes → ¬ Text.Utf8.IsValid bytes →
      ∃ place, v.detectBoot.outcome = .error (.undecodable place) := by
  refine ⟨?_, ⟨?_, ?_⟩, fun bytes => detectBoot_of_not_isValid⟩
  · intro e he
    cases h : v.readBytes commandLinePath with
    | ok bytes =>
      rw [readBoot_of_ok h] at he
      cases he
    | error e' =>
      rw [readBoot_of_error h, Except.error.injEq] at he
      subst he
      rw [detectBoot_of_error h]
      rcases isSystem_of_readBytes h with hsystem | rfl
      · exact .inl ⟨hsystem, if_pos hsystem⟩
      · exact .inr ⟨rfl, rfl⟩
  · intro hagree bytes h
    apply Classical.byContradiction
    intro hvalid
    obtain ⟨place, hplace⟩ := detectBoot_of_not_isValid h hvalid
    have hboot := hagree _ (readBoot_of_ok h)
    rw [hplace] at hboot
    cases hboot
  · intro hvalid boot hboot
    cases h : v.readBytes commandLinePath with
    | ok bytes =>
      obtain ⟨boot', hboot', hdetect⟩ := detectBoot_of_isValid h (hvalid bytes h)
      rw [hboot, Except.ok.injEq] at hboot'
      rw [hdetect, hboot']
    | error e =>
      rw [readBoot_of_error h] at hboot
      cases hboot

def withCommandLine (tree : FileTree) : View :=
  { sample with host := { sample.host with
      files := ⟨.dir [("proc", .dir [("cmdline", tree)])], []⟩ } }

example : (withCommandLine (.refused ⟨"OSError", "[Errno 5] Input/output error"⟩)).readBoot =
      .error (.outside ⟨"OSError", .system, "[Errno 5] Input/output error"⟩) ∧
    (withCommandLine (.refused ⟨"OSError", "[Errno 5] Input/output error"⟩)).detectBoot.outcome =
      .ok .unknown :=
  ⟨rfl, rfl⟩

def booted (bytes : List UInt8) : View := withCommandLine (.file bytes)

def strayBytes : List UInt8 := 0xff :: Text.Utf8.encode "COS_ACTIVE".toList

theorem detectBoot_strayBytes : (booted strayBytes).readBoot = .ok .active ∧
    (booted strayBytes).detectBoot.outcome = .error (.undecodable ⟨0xff, 0, 1, .start⟩) :=
  ⟨rfl, rfl⟩

end HostSnapshot.View

namespace HostSnapshot

/-- Bytes with the ASCII characters of one of the markers of a boot. -/
def Boot.IsStoredIn (boot : Boot) (bytes : List UInt8) : Prop :=
  ∃ m ∈ boot.markers, m.toList.map Text.asciiByte <:+: bytes

instance (boot : Boot) (bytes : List UInt8) : Decidable (boot.IsStoredIn bytes) :=
  inferInstanceAs (Decidable (∃ m ∈ boot.markers, m.toList.map Text.asciiByte <:+: bytes))

theorem Boot.isPlainWord_of_mem_markers {boot : Boot} {m : String} (h : m ∈ boot.markers) :
    Text.IsPlainWord m.toList := by
  have hall : ∀ boot : Boot, ∀ m ∈ boot.markers, Text.IsPlainWord m.toList := by
    intro boot
    cases boot <;> decide
  exact hall boot m h

/-- Reading bytes as text keeps every marker and makes up none. -/
theorem Boot.isMarked_text_iff {boot : Boot} {bytes : List UInt8} :
    boot.IsMarked (Text.unifyLineEnds (Text.Utf8.replace bytes)) ↔ boot.IsStoredIn bytes := by
  unfold IsMarked IsStoredIn
  refine exists_congr fun m => and_congr_right fun hm => ?_
  exact (isPlainWord_of_mem_markers hm).infix_text_iff bytes

namespace View

/-- The boot of stored bytes is the first one that has a marker in them, and unknown if none has. -/
theorem readBoot_of_stored {v : View} {bytes : List UInt8}
    (h : v.readBytes commandLinePath = .ok bytes) :
    (∀ before boot after, Boot.all = before ++ boot :: after →
      (∀ other ∈ before, ¬ Boot.IsStoredIn other bytes) → Boot.IsStoredIn boot bytes →
      v.readBoot = .ok boot) ∧
    ((∀ boot : Boot, ¬ boot.IsStoredIn bytes) → v.readBoot = .ok .unknown) := by
  simp only [← Boot.isMarked_text_iff]
  rw [readBoot_of_ok h]
  constructor
  · intro before boot after hall hbefore hboot
    rw [Boot.classify_of_first hall hbefore hboot]
  · intro hnone
    rw [Boot.classify_of_none hnone]

/-- A marker that is broken by a stray byte, and one after a character that is cut off. -/
def brokenBytes : List UInt8 :=
  "COS_".toList.map Text.asciiByte ++ 0xff :: "ACTIVE netboot\r".toList.map Text.asciiByte ++
    [0xe2, 0x82] ++ "COS_SYSTEM".toList.map Text.asciiByte ++ [0xf0]

theorem readBoot_brokenBytes :
    (booted brokenBytes).readBytes commandLinePath = .ok brokenBytes ∧
    ¬ Boot.active.IsStoredIn brokenBytes ∧ ¬ Boot.passive.IsStoredIn brokenBytes ∧
    Boot.recovery.IsStoredIn brokenBytes ∧
    (booted brokenBytes).readBoot = .ok .recovery := by
  have hactive : ¬ Boot.active.IsStoredIn brokenBytes := by decide
  have hpassive : ¬ Boot.passive.IsStoredIn brokenBytes := by decide
  have hrecovery : Boot.recovery.IsStoredIn brokenBytes := by decide
  have hbytes : (booted brokenBytes).readBytes commandLinePath = .ok brokenBytes := rfl
  refine ⟨hbytes, hactive, hpassive, hrecovery, ?_⟩
  apply (readBoot_of_stored hbytes).1 [.active, .passive] .recovery [.liveMedia, .unknown] rfl
  · simp [hactive, hpassive]
  · exact hrecovery

end View

end HostSnapshot
