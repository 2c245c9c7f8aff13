import AipuUmd.Job.Layout

/-!
# Unwinding a failed `init`

When an allocation of `alloc_load_job_buffers` fails before the subgraph buffers
exist, the `finish` path calls `free_job_buffers`, whose BSS loop runs over the
graph's BSS count and reads `m_bss_buffer_vec[bss_idx]` from a vector that is still
empty. For every graph with a BSS, a refused first allocation therefore ends in an
out-of-range read (`refused_first_allocation_faults`).

`free_job_buffers` also gives the group ids back, and `destroy` is `free_job_buffers`.
So a job whose `init` failed and was unwound gives its range back a second time when
it is destroyed; for a graph without BSS nothing stops either call
(`failed_init_destroy_releases_twice`).
-/

namespace AipuUmd

/-- The memory manager refuses its next allocation. -/
def MemMgr.RefusesNext (m : MemMgr) : Prop := m.outcomes.head? = some false

theorem MemMgr.mallocInto_of_refusesNext {m : MemMgr} (refuses : m.RefusesNext) (size : Nat)
    (buf : Option BufferDesc) : (m.mallocInto size buf).2 = (buf, .bufAllocFail) := by
  unfold MemMgr.RefusesNext at refuses
  unfold MemMgr.mallocInto MemMgr.malloc
  match m, refuses with
  | ⟨false :: _, _, _, _⟩, _ => rfl

/-- `b` keeps `a`'s graph, group ids, subgraph records and BSS records: only the
job-wide buffers and the memory manager may have changed. -/
structure JobV3_1.KeepsRecords (a b : JobV3_1) : Prop where
  graph : b.graph = a.graph
  sgCnt : b.sgCnt = a.sgCnt
  startGroupId : b.startGroupId = a.startGroupId
  dev : b.dev = a.dev
  sgJob : b.sgJob = a.sgJob
  bssBufferVec : b.bssBufferVec = a.bssBufferVec

theorem JobV3_1.KeepsRecords.trans {a b c : JobV3_1} (ab : a.KeepsRecords b)
    (bc : b.KeepsRecords c) : a.KeepsRecords c :=
  ⟨bc.1.trans ab.1, bc.2.trans ab.2, bc.3.trans ab.3, bc.4.trans ab.4, bc.5.trans ab.5,
    bc.6.trans ab.6⟩

/-- Steps 0 to 3 either fail on the refused allocation or make none. -/
theorem JobV3_1.allocModelParam_of_refusesNext (j : JobV3_1) (refuses : j.mem.RefusesNext) :
    j.KeepsRecords j.allocModelParam.1 ∧
      (j.allocModelParam.2 = .bufAllocFail ∨ j.allocModelParam = (j, .success)) := by
  unfold JobV3_1.allocModelParam
  split
  · have fails :=
      MemMgr.mallocInto_of_refusesNext refuses j.graph.globalParamSize j.modelGlobalParam
    simp only [fails, ne_eq, not_false_eq_true, if_true]
    exact ⟨⟨rfl, rfl, rfl, rfl, rfl, rfl⟩, .inl rfl⟩
  · exact ⟨⟨rfl, rfl, rfl, rfl, rfl, rfl⟩, .inr rfl⟩

theorem JobV3_1.allocJobWide_of_refusesNext (j : JobV3_1) (refuses : j.mem.RefusesNext) :
    j.KeepsRecords j.allocJobWide.1 ∧ j.allocJobWide.2 = .bufAllocFail := by
  have tcbs := MemMgr.mallocInto_of_refusesNext refuses
    ((1 + j.sgCnt * (j.taskPerSg + 1)) * tcbSize) j.tcbs
  unfold JobV3_1.allocJobWide onSuccess
  by_cases rodata : j.graph.rodataSize = 0
  · simp only [rodata, if_true]
    by_cases desc : j.graph.descSize = 0
    · simp only [desc, if_true, tcbs]
      exact ⟨⟨rfl, rfl, rfl, rfl, rfl, rfl⟩, by trivial⟩
    · simp only [desc, if_false, MemMgr.mallocInto_of_refusesNext refuses]
      exact ⟨⟨rfl, rfl, rfl, rfl, rfl, rfl⟩, by trivial⟩
  · simp only [rodata, if_false, MemMgr.mallocInto_of_refusesNext refuses]
    exact ⟨⟨rfl, rfl, rfl, rfl, rfl, rfl⟩, by trivial⟩

/-- A refused first allocation stops `alloc_load_job_buffers` before the subgraph
buffers. -/
theorem JobV3_1.allocBuffers_of_refusesNext (j : JobV3_1) (refuses : j.mem.RefusesNext) :
    ∃ k, j.allocBuffers = .ok (k, .bufAllocFail) ∧ j.KeepsRecords k := by
  have steps : j.KeepsRecords (onSuccess j.allocModelParam JobV3_1.allocJobWide).1 ∧
      (onSuccess j.allocModelParam JobV3_1.allocJobWide).2 = .bufAllocFail := by
    obtain ⟨keeps, fails | unchanged⟩ := j.allocModelParam_of_refusesNext refuses
    · unfold onSuccess
      rw [if_neg (by rw [fails]; decide)]
      exact ⟨keeps, fails⟩
    · rw [unchanged]
      exact j.allocJobWide_of_refusesNext refuses
  refine ⟨_, ?_, steps.1⟩
  unfold JobV3_1.allocBuffers
  rw [if_pos (by rw [steps.2]; decide), ← steps.2]
  rfl

/-- `free_job_buffers` with no subgraph record yet reads `m_bss_buffer_vec[0]` of an
empty vector when the graph has a BSS. -/
theorem JobV3_1.freeJobBuffers_of_missing_bss (j : JobV3_1) (sg : j.sgJob = [])
    (missing : j.bssBufferVec = []) (hasBss : j.graph.bss ≠ []) :
    j.freeJobBuffers = .error (.bssBufferVec 0) := by
  obtain ⟨b, rest, eq⟩ := List.exists_cons_of_ne_nil hasBss
  unfold JobV3_1.freeJobBuffers
  simp only [sg, eq, List.length_nil, List.range_zero, List.foldlM_nil, pure_bind, List.length_cons,
    List.range_succ_eq_map, List.foldlM_cons, JobV3_1.freeBss, missing, List.get?_nil]
  rfl

/-- With no subgraph record and no BSS, `free_job_buffers` succeeds and gives back
`[m_start_group_id, m_start_group_id + m_sg_cnt)`. -/
theorem JobV3_1.freeJobBuffers_of_no_bss (j : JobV3_1) (sg : j.sgJob = [])
    (noBss : j.graph.bss = []) :
    ∃ j', j.freeJobBuffers = .ok j' ∧
      j'.dev.groupLog = j.dev.groupLog ++ [.put j.startGroupId j.sgCnt] ∧ j'.sgJob = [] ∧
        j'.graph = j.graph ∧ j'.startGroupId = j.startGroupId ∧ j'.sgCnt = j.sgCnt := by
  unfold JobV3_1.freeJobBuffers
  simp only [sg, noBss, List.length_nil, List.range_zero, List.foldlM_nil, pure_bind]
  exact ⟨_, rfl, rfl, rfl, rfl, rfl, rfl⟩

/-- The unwind of a failure before the subgraph buffers is `free_job_buffers`. -/
theorem JobV3_1.unwind_of_no_records (j : JobV3_1) (sg : j.sgJob = []) {st : Status}
    (fails : st ≠ .success) : j.unwind st = (do pure (← j.freeJobBuffers, st)) := by
  unfold JobV3_1.unwind
  simp only [if_neg fails, sg, List.length_nil, List.range_zero, List.foldlM_nil, pure_bind]

theorem Device.getStartGroupId_of_head {d : Device} {count start : Nat} (nonzero : count ≠ 0)
    (granted : d.groupAnswers.head? = some (some start)) (old : Nat) :
    d.getStartGroupId count old =
      (⟨d.groupAnswers.tail, d.groupLog ++ [.get start count]⟩, some start) := by
  unfold Device.getStartGroupId
  rw [if_neg nonzero]
  match d, granted with
  | ⟨some _ :: _, _⟩, rfl => rfl

/-! ## Failures of `init` -/

/-- Once the shape check passes and the group ids are granted, `init` is
`loadAndChain`. -/
theorem JobV3_1.init_of_granted (j : JobV3_1) (checked : j.graph.dynamicShape → j.dynShapeSet)
    {dev : Device} {start : Nat}
    (granted : j.dev.getStartGroupId j.graph.subgraphCnt j.startGroupId = (dev, some start)) :
    j.init = { j.setJobParams with dev, startGroupId := start }.loadAndChain := by
  have granted' :
      j.setJobParams.dev.getStartGroupId j.setJobParams.sgCnt j.setJobParams.startGroupId =
        (dev, some start) := granted
  unfold JobV3_1.init
  split
  · next unset => simp_all
  · dsimp only
    rw [granted']

/-- A refused first allocation stops `alloc_load_job_buffers` before the subgraph
buffers and unwinds through `free_job_buffers`. -/
theorem JobV3_1.allocLoadJobBuffers_of_refusesNext (j : JobV3_1) (refuses : j.mem.RefusesNext)
    (noRecords : j.sgJob = []) :
    ∃ k, j.KeepsRecords k ∧
      j.allocLoadJobBuffers = (do pure (← k.freeJobBuffers, Status.bufAllocFail)) := by
  obtain ⟨k, fails, keeps⟩ := j.allocBuffers_of_refusesNext refuses
  refine ⟨k, keeps, ?_⟩
  unfold JobV3_1.allocLoadJobBuffers
  rw [fails]
  exact k.unwind_of_no_records (keeps.sgJob.trans noRecords) (by decide : Status.bufAllocFail ≠ .success)

theorem refused_first_allocation_faults (j : JobV3_1) (hasBss : j.graph.bss ≠ [])
    (noRecords : j.sgJob = [] ∧ j.bssBufferVec = []) (checked : j.graph.dynamicShape → j.dynShapeSet)
    (refuses : j.mem.RefusesNext) {dev : Device} {start : Nat}
    (granted : j.dev.getStartGroupId j.graph.subgraphCnt j.startGroupId = (dev, some start)) :
    j.init = .error (.bssBufferVec 0) := by
  rw [j.init_of_granted checked granted]
  let j₁ : JobV3_1 := { j.setJobParams with dev, startGroupId := start }
  obtain ⟨k, keeps, load⟩ := j₁.allocLoadJobBuffers_of_refusesNext refuses noRecords.1
  have faults : k.freeJobBuffers = .error (.bssBufferVec 0) :=
    JobV3_1.freeJobBuffers_of_missing_bss _ (keeps.sgJob.trans noRecords.1)
      (keeps.bssBufferVec.trans noRecords.2) (by rw [keeps.graph]; exact hasBss)
  unfold JobV3_1.loadAndChain
  rw [load, faults]
  rfl

/-- One subgraph with one private section, and one BSS with one reuse section. -/
def oneBssGraph : Graph where
  subgraphs := [⟨0, [], [⟨4096⟩], 64, 0⟩]
  fakeSubgraph := false
  bss := [⟨[⟨4096⟩], 1024, default, []⟩]
  rodataSize := 256
  descSize := 0
  globalParamSize := 0
  dynamicShape := false
  gmReuse := []

/-- A job of `oneBssGraph` whose first allocation, the rodata, is refused. -/
def refusedRodataJob : JobV3_1 :=
  JobV3_1.create oneBssGraph true [] false [] (.withOutcomes [false]) (.once 5)

theorem refused_first_allocation_faults_rodata :
    refusedRodataJob.graph.bss ≠ [] ∧
      (refusedRodataJob.sgJob = [] ∧ refusedRodataJob.bssBufferVec = []) ∧
      (refusedRodataJob.graph.dynamicShape → refusedRodataJob.dynShapeSet) ∧
      refusedRodataJob.mem.RefusesNext ∧
      refusedRodataJob.dev.getStartGroupId refusedRodataJob.graph.subgraphCnt
        refusedRodataJob.startGroupId = (⟨[], [.get 5 1]⟩, some 5) ∧
      refusedRodataJob.init = .error (.bssBufferVec 0) :=
  ⟨by decide, ⟨rfl, rfl⟩, by decide, rfl, rfl,
    refused_first_allocation_faults refusedRodataJob (by decide) ⟨rfl, rfl⟩ (by decide) rfl
      rfl⟩

/-- A stack refused in `init_per_task_data`, after the first task's stack and private
data: that task never reaches `m_sgt_allocated`, so the unwind leaves both allocated. -/
example : ((JobV3_1.create oneBssGraph true [] false []
    (.withOutcomes [true, true, true, true, true, true, false]) (.once 5)).init.map
      fun r => (r.2, r.1.mem.live)) = .ok (.bufAllocFail, [4, 5]) := by decide

/-- A job without BSS whose first allocation after the grant of `start` is refused: `init`
gives the range back through `free_job_buffers` and fails with
`AIPU_STATUS_ERROR_BUF_ALLOC_FAIL`, still holding no subgraph record and the grant. -/
theorem JobV3_1.init_of_refused_no_bss (j : JobV3_1) (noBss : j.graph.bss = [])
    (noRecords : j.sgJob = []) (checked : j.graph.dynamicShape → j.dynShapeSet)
    (refuses : j.mem.RefusesNext) {start : Nat} (granted : j.dev.groupAnswers.head? = some (some start))
    (hasSubgraphs : j.graph.subgraphCnt ≠ 0) :
    ∃ j', j.init = .ok (j', .bufAllocFail) ∧
      j'.dev.groupLog = j.dev.groupLog ++
        [.get start j.graph.subgraphCnt, .put start j.graph.subgraphCnt] ∧
      j'.sgJob = [] ∧ j'.graph = j.graph ∧ j'.startGroupId = start ∧ j'.sgCnt = j.graph.subgraphCnt := by
  rw [j.init_of_granted checked (Device.getStartGroupId_of_head hasSubgraphs granted _)]
  let j₁ : JobV3_1 := { j.setJobParams with
    dev := ⟨j.dev.groupAnswers.tail, j.dev.groupLog ++ [.get start j.graph.subgraphCnt]⟩,
    startGroupId := start }
  obtain ⟨k, keeps, load⟩ := j₁.allocLoadJobBuffers_of_refusesNext refuses noRecords
  obtain ⟨j₂, unwound, log₂, sg₂, graph₂, start₂, count₂⟩ :=
    k.freeJobBuffers_of_no_bss (keeps.sgJob.trans noRecords) (by rw [keeps.graph]; exact noBss)
  refine ⟨j₂, ?_, ?_, sg₂, graph₂.trans keeps.graph, start₂.trans keeps.startGroupId,
    count₂.trans keeps.sgCnt⟩
  · unfold JobV3_1.loadAndChain
    rw [load, unwound]
    rfl
  · rw [log₂, keeps.dev, keeps.startGroupId, keeps.sgCnt]
    simp only [j₁, JobV3_1.setJobParams, List.append_assoc, List.cons_append, List.nil_append]

theorem failed_init_destroy_releases_twice (j : JobV3_1) (noBss : j.graph.bss = [])
    (noRecords : j.sgJob = []) (checked : j.graph.dynamicShape → j.dynShapeSet)
    (refuses : j.mem.RefusesNext) {start : Nat} (granted : j.dev.groupAnswers.head? = some (some start))
    (hasSubgraphs : j.graph.subgraphCnt ≠ 0) :
    ∃ j', j.init = .ok (j', .bufAllocFail) ∧ ∃ j'', j'.destroy = .ok j'' ∧
      j''.dev.groupLog = j.dev.groupLog ++
        [.get start j.graph.subgraphCnt, .put start j.graph.subgraphCnt, .put start j.graph.subgraphCnt] := by
  obtain ⟨j₂, init, log₂, sg₂, graph₂, start₂, count₂⟩ :=
    j.init_of_refused_no_bss noBss noRecords checked refuses granted hasSubgraphs
  obtain ⟨j₃, destroyed, log₃, -⟩ := j₂.freeJobBuffers_of_no_bss sg₂ (by rw [graph₂]; exact noBss)
  refine ⟨j₂, init, j₃, destroyed, ?_⟩
  rw [log₃, log₂, start₂, count₂]
  simp only [List.append_assoc, List.cons_append, List.nil_append]

/-- The graph of `oneBssGraph` without its BSS. -/
def noBssGraph : Graph := { oneBssGraph with bss := [] }

/-- A job of `noBssGraph` whose first allocation is refused. -/
def refusedNoBssJob : JobV3_1 :=
  JobV3_1.create noBssGraph true [] false [] (.withOutcomes [false]) (.once 5)

theorem failed_init_destroy_releases_twice_no_bss :
    refusedNoBssJob.graph.bss = [] ∧ refusedNoBssJob.sgJob = [] ∧
      (refusedNoBssJob.graph.dynamicShape → refusedNoBssJob.dynShapeSet) ∧
      refusedNoBssJob.mem.RefusesNext ∧ refusedNoBssJob.dev.groupAnswers.head? = some (some 5) ∧
      refusedNoBssJob.graph.subgraphCnt ≠ 0 ∧
      ∃ j', refusedNoBssJob.init = .ok (j', .bufAllocFail) ∧ ∃ j'', j'.destroy = .ok j'' ∧
        j''.dev.groupLog = [.get 5 1, .put 5 1, .put 5 1] :=
  ⟨rfl, rfl, by decide, rfl, rfl, by decide,
    failed_init_destroy_releases_twice refusedNoBssJob rfl rfl (by decide) rfl rfl (by decide)⟩

end AipuUmd
