import HostSnapshot.Proofs.Facts.Processors

namespace HostSnapshot.View

open Traced

variable {v : View} {hostPath : String}

def textOrEmpty (v : View) (hostPath : String) : List Char :=
  (v.readText hostPath).toOption.getD []

def processorEntries (v : View) : Processors.Entries :=
  .ofText (v.textOrEmpty cpuInfoPath)

/-- Whether the size of the memory is known, or the system refuses to tell it. -/
def MemoryIsForgiven (v : View) : Prop :=
  ∀ f, v.host.machine.memory = .error f → f.isSystem = true ∨ f.family = .runtime

/-- Whether facts tell this of the processors. -/
def Tells (facts : Json.Members) (p : Processors) : Prop :=
  ∃ cpu : Json.Members, facts.find? "cpu" = some (.obj cpu) ∧
    cpu.find? "vendor" = some (.str p.vendor) ∧ cpu.find? "model" = some (.str p.model) ∧
    cpu.find? "cpus" = some (.int p.sockets)

theorem readIfThere_of_holdsNull (h : (v.files.below hostPath).holdsNull = true) :
    v.readIfThere hostPath = .error .nullInPath := by
  unfold readIfThere
  rw [readText_of_holdsNull h]
  rfl

theorem readIfThere_of_not_holdsNull (h : ¬ (v.files.below hostPath).holdsNull = true) :
    v.readIfThere hostPath = .ok (v.readText hostPath).toOption := by
  unfold readIfThere
  rcases readText_of_not_holdsNull h with ⟨s, hs⟩ | ⟨e, hread, he⟩
  · rw [hs]
    rfl
  · rw [hread]
    exact if_pos he

theorem fact_of_not_holdsNull (h : ¬ (v.files.below hostPath).holdsNull = true) :
    v.fact hostPath = .ok (String.ofList (Text.strip (v.textOrEmpty hostPath))) := by
  unfold fact
  rw [readIfThere_of_not_holdsNull h]
  rfl

theorem exists_nodeFacts (h : ¬ v.files.holdsNull = true) (live : Bool) :
    ∃ node, v.nodeFacts live = .ok node := by
  have hname : ¬ (v.files.below hostnamePath).holdsNull = true := by
    rwa [holdsNull_below _ _ (by decide)]
  have hid : ¬ (v.files.below machineIdPath).holdsNull = true := by
    rwa [holdsNull_below _ _ (by decide)]
  unfold nodeFacts
  rw [fact_of_not_holdsNull hname, fact_of_not_holdsNull hid]
  exact ⟨_, rfl⟩

theorem exists_systemFacts (h : ¬ v.files.holdsNull = true) :
    ∃ system, v.systemFacts.outcome = .ok system := by
  have hrelease : ∃ release, v.releaseOrEmpty.outcome = .ok release := by
    rw [← holdsNull_below _ releasePath (by decide)] at h
    exact exists_orDefault_readText h _ _ _ _
  obtain ⟨release, hrelease⟩ := hrelease
  unfold systemFacts
  rw [outcome_bind_of_ok hrelease]
  exact ⟨_, rfl⟩

/-- Steps that do not fail have results, of the kind that each of them gives. -/
theorem exists_mapM_eq_ok {α β : Type} {f : α → Except Fault β} {P : β → Prop} {as : List α}
    (h : ∀ a ∈ as, ∃ b, f a = .ok b ∧ P b) : ∃ bs, as.mapM f = .ok bs ∧ ∀ b ∈ bs, P b := by
  induction as with
  | nil => exact ⟨[], rfl, fun b hb => nomatch hb⟩
  | cons a as ih =>
    obtain ⟨b, hb, hP⟩ := h a List.mem_cons_self
    obtain ⟨bs, hbs, hPs⟩ := ih fun a ha => h a (List.mem_cons_of_mem _ ha)
    refine ⟨b :: bs, ?_, List.forall_mem_cons.mpr ⟨hP, hPs⟩⟩
    rw [List.mapM_cons, hb]
    simp only [bind, Except.bind, hbs]
    rfl

theorem exists_firmwareFacts (h : ¬ v.files.holdsNull = true) :
    ∃ firmware, v.firmwareFacts = .ok firmware ∧
      ∀ member ∈ firmware, member.1 ∈ firmwareSections.map (·.1) := by
  have hpaths : ∀ part ∈ firmwareSections, ∀ file ∈ part.2,
      (Path.components (firmwarePath ++ file.2).toList).any
        (fun component => component.toList.contains '\x00') = false := by decide +kernel
  unfold firmwareFacts
  refine exists_mapM_eq_ok fun (part, files) hpart => ?_
  have hfacts : ∀ file ∈ files, ∃ fact,
      (do return (file.1, Json.str (← v.fact (firmwarePath ++ file.2))) :
        Except Fault (String × Json)) = .ok fact ∧ True := by
    intro file hfile
    rw [← holdsNull_below _ _ (hpaths (part, files) hpart file hfile)] at h
    rw [fact_of_not_holdsNull h]
    exact ⟨_, rfl, trivial⟩
  obtain ⟨facts, hfacts, -⟩ := exists_mapM_eq_ok hfacts
  refine ⟨(part, .obj facts), ?_, List.mem_map_of_mem hpart⟩
  dsimp only
  rw [hfacts]
  rfl

def processorMembers (v : View) (p : Processors) : Json.Members := [
  ("vendor", .str p.vendor),
  ("model", .str p.model),
  ("cpus", .int p.sockets),
  ("cores", .int (v.host.machine.cores.getD 0)),
  ("threads", .int (v.host.machine.threads.getD 0))]

theorem processorFacts_eq (h : ¬ v.files.holdsNull = true) : v.processorFacts =
    (Processors.ofText (v.textOrEmpty cpuInfoPath)).map fun p => .obj (v.processorMembers p) := by
  rw [← holdsNull_below _ cpuInfoPath (by decide)] at h
  unfold processorFacts
  rw [readIfThere_of_not_holdsNull h]
  rfl

theorem exists_memoryFacts (h : v.MemoryIsForgiven) :
    ∃ memory, v.memoryFacts.outcome = .ok memory := by
  unfold memoryFacts
  cases hmemory : v.host.machine.memory with
  | ok n => exact ⟨_, rfl⟩
  | error f =>
    have hf : (f.isSystem || f.family = .runtime) = true := by simpa using h f hmemory
    dsimp only
    rw [if_pos hf]
    exact ⟨_, rfl⟩

theorem memoryFacts_of_not_memoryIsForgiven (h : ¬ v.MemoryIsForgiven) :
    ∃ f, v.memoryFacts.outcome = .error (.outside f) := by
  unfold MemoryIsForgiven at h
  simp only [Classical.not_forall] at h
  obtain ⟨f, hmemory, hf⟩ := h
  have hf : ¬ (f.isSystem || f.family = .runtime) = true := by simpa using hf
  refine ⟨f, ?_⟩
  unfold memoryFacts
  rw [hmemory]
  dsimp only
  rw [if_neg hf]
  rfl

theorem facts_of_holdsNull (h : v.files.holdsNull = true) (live : Bool) :
    (v.facts live).outcome = .error .nullInPath := by
  have hname : (v.files.below hostnamePath).holdsNull = true := by
    rwa [holdsNull_below _ _ (by decide)]
  have hnode : v.nodeFacts live = .error .nullInPath := by
    unfold nodeFacts fact
    rw [readIfThere_of_holdsNull hname]
    rfl
  have hnode' : (Traced.ofExcept (v.nodeFacts live)).outcome = .error .nullInPath := hnode
  unfold facts
  rw [bind_of_error hnode']

/-- Before the processors, nothing keeps the facts from being told. -/
theorem outcome_facts (h : ¬ v.files.holdsNull = true) (live : Bool) :
    ∃ sections : Json.Members, sections.find? "cpu" = none ∧
      (v.facts live).outcome = (do
        let processors ← Traced.ofExcept v.processorFacts
        let memory ← v.memoryFacts
        return sections ++ [("cpu", processors), ("memory", memory)]).outcome := by
  obtain ⟨node, hnode⟩ := exists_nodeFacts h live
  obtain ⟨system, hsystem⟩ := exists_systemFacts h
  obtain ⟨firmware, hfirmware, hnames⟩ := exists_firmwareFacts h
  refine ⟨[("node", node), ("os", system), ("kernel", v.kernelFacts)] ++ firmware, ?_, ?_⟩
  · have hfirmware : firmware.find? "cpu" = none := by
      refine List.lookup_eq_none_iff.mpr fun member hmember => bne_iff_ne.mpr ?_
      -- None of the sections before the processors has their name.
      have hcpu : ∀ name ∈ firmwareSections.map (·.1), "cpu" ≠ name := by decide
      exact hcpu member.1 (hnames member hmember)
    rw [List.cons_append, Json.Members.find?_cons, if_neg (by decide), List.cons_append,
      Json.Members.find?_cons, if_neg (by decide), List.cons_append, Json.Members.find?_cons,
      if_neg (by decide)]
    exact hfirmware
  · have hnode' : (Traced.ofExcept (v.nodeFacts live)).outcome = .ok node := hnode
    have hfirmware' : (Traced.ofExcept v.firmwareFacts).outcome = .ok firmware := hfirmware
    unfold facts
    rw [outcome_bind_of_ok hnode', outcome_bind_of_ok hsystem, outcome_bind_of_ok hfirmware']

theorem outcome_processorFacts_of_areRead (hroot : ¬ v.files.holdsNull = true)
    (hread : v.processorEntries.AreRead) : (Traced.ofExcept v.processorFacts).outcome =
      .ok (.obj (v.processorMembers (.told v.processorEntries))) := by
  have htold : Processors.ofText (v.textOrEmpty cpuInfoPath) = .ok (.told v.processorEntries) :=
    Processors.ofText_of_areRead hread
  rw [outcome_ofExcept, processorFacts_eq hroot, htold]
  rfl

/-- Facts are told of a host whose sockets are all read, and they tell what its list of processors
says. -/
theorem facts_of_areRead (hroot : ¬ v.files.holdsNull = true) (hmemory : v.MemoryIsForgiven)
    (hread : v.processorEntries.AreRead) (live : Bool) :
    ∃ facts, (v.facts live).outcome = .ok facts ∧ Tells facts (.told v.processorEntries) := by
  obtain ⟨sections, hsections, hfacts⟩ := outcome_facts hroot live
  obtain ⟨memory, hmemory⟩ := exists_memoryFacts hmemory
  rw [hfacts, outcome_bind_of_ok (outcome_processorFacts_of_areRead hroot hread),
    outcome_bind_of_ok hmemory]
  refine ⟨_, rfl, v.processorMembers (.told v.processorEntries), ?_, rfl, rfl, rfl⟩
  unfold Json.Members.find? at hsections ⊢
  rw [List.lookup_append, hsections]
  rfl

theorem facts_of_not_memoryIsForgiven (hroot : ¬ v.files.holdsNull = true)
    (hmemory : ¬ v.MemoryIsForgiven) (hread : v.processorEntries.AreRead) (live : Bool) :
    ∃ f, (v.facts live).outcome = .error (.outside f) := by
  obtain ⟨sections, -, hfacts⟩ := outcome_facts hroot live
  obtain ⟨f, hf⟩ := memoryFacts_of_not_memoryIsForgiven hmemory
  rw [hfacts, outcome_bind_of_ok (outcome_processorFacts_of_areRead hroot hread), bind_of_error hf]
  exact ⟨f, rfl⟩

theorem facts_of_not_areRead (hroot : ¬ v.files.holdsNull = true)
    (hread : ¬ v.processorEntries.AreRead) (live : Bool) :
    ∃ cause, (v.facts live).outcome = .error (.malformedInteger cause) := by
  obtain ⟨sections, -, hfacts⟩ := outcome_facts hroot live
  obtain ⟨cause, hcause⟩ := Processors.ofText_of_not_areRead hread
  have hprocessors : (Traced.ofExcept v.processorFacts).outcome =
      .error (.malformedInteger cause) := by
    rw [outcome_ofExcept, processorFacts_eq hroot, hcause]
    rfl
  rw [hfacts, bind_of_error hprocessors]
  exact ⟨cause, rfl⟩

/-- Whatever the files of a host hold, its facts are told, and tell what its list of processors
says, exactly if the sockets in that list that are written with digits are numbers which are not too
long; the root has to be one that can be asked for, and the system has to tell the size of the
memory or refuse it. A socket that is not such a number is a fault of all facts. -/
theorem facts_told_iff (v : View) (live : Bool) :
    ((∃ facts, (v.facts live).outcome = .ok facts ∧ Tells facts (.told v.processorEntries)) ↔
      v.files.holdsNull = false ∧ v.MemoryIsForgiven ∧ v.processorEntries.AreRead) ∧
    ((∃ cause, (v.facts live).outcome = .error (.malformedInteger cause)) ↔
      v.files.holdsNull = false ∧ ¬ v.processorEntries.AreRead) := by
  by_cases hroot : v.files.holdsNull = true
  · simp [facts_of_holdsNull hroot live, hroot]
  · by_cases hread : v.processorEntries.AreRead
    · by_cases hmemory : v.MemoryIsForgiven
      · obtain ⟨facts, hfacts, htells⟩ := facts_of_areRead hroot hmemory hread live
        simp [hfacts, htells, hroot, hmemory, hread]
      · obtain ⟨f, hf⟩ := facts_of_not_memoryIsForgiven hroot hmemory hread live
        simp [hf, hmemory, hread]
    · obtain ⟨cause, hcause⟩ := facts_of_not_areRead hroot hread live
      simp [hcause, hroot, hread]

def withProcessors (text : String) : View :=
  { sample with host := { sample.host with
      files := ⟨.dir [("proc", .dir [("cpuinfo", .file (Text.Utf8.encode text.toList))])], []⟩ } }

def superscriptSocket : String :=
  "vendor_id\t: GenuineIntel\nphysical id\t: 0\nphysical id\t: ²\n"

theorem facts_superscriptSocket :
    Processors.told (withProcessors superscriptSocket).processorEntries =
      ⟨"GenuineIntel", "", 1⟩ ∧
    ((withProcessors superscriptSocket).facts false).outcome =
      .error (.malformedInteger (.literal "²")) :=
  ⟨rfl, rfl⟩

end HostSnapshot.View
