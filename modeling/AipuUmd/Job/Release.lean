import AipuUmd.Job.Ownership

/-!
# What `destroy` gives back

`destroy` is `free_job_buffers`. It frees the job-wide buffers that hold memory, runs
`free_sg_buffers` for every subgraph record, and frees the reuse buffers of every BSS.
The first call of `free_sg_buffers` frees `tot_priv` and the tasks of every subgraph in
`m_sgt_allocated`; after it the private buffers are only dropped when `tot_priv` was
freed, and freed one by one otherwise. The BSS loop frees `tot_reuse` at BSS 0 and then
only the reuse buffers GM claims, or, without `tot_reuse`, every reuse buffer
`specify_io_buffer` did not replace.

* `JobV3_1.destroy_frees`: for a job whose pointers and records are as `Releasable`
  says, `destroy` succeeds, frees exactly the listed buffers in order, and gives the
  group ids back.
* `init_destroy_releases_all`: after a successful `init`, `destroy` gives back every
  allocation `init` made, when the model global parameter is not empty and the
  centralized path puts every reuse section of BSS 0 in `tot_reuse` without
  `reuse_buf_total_size` wrapping. A `tot_reuse` of 0 bytes (two central sections of
  `2^31` bytes) is not freed, and its views are freed as if they were allocations.
* `init_destroy_returns_group_ids`: after a successful `init`, `destroy` succeeds whatever
  the buffers hold, and the device sees the job's group ids taken once and given back
  once.
-/

namespace AipuUmd

/-! ## Freeing -/

/-- Owned buffers freed one by one, as the job's loops free them. -/
def MemMgr.freeAll (m : MemMgr) (bs : List BufferDesc) : MemMgr :=
  bs.foldl (fun m b => m.free (some b)) m

@[simp] theorem MemMgr.freeAll_nil (m : MemMgr) : m.freeAll [] = m := rfl

@[simp] theorem MemMgr.freeAll_append (m : MemMgr) (xs ys : List BufferDesc) :
    m.freeAll (xs ++ ys) = (m.freeAll xs).freeAll ys :=
  List.foldl_append _ _ _ _

/-- Freeing a pointer is freeing what it holds. -/
theorem MemMgr.free_eq_freeAll (m : MemMgr) (b : Option BufferDesc) : m.free b = m.freeAll b.toList := by
  cases b <;> rfl

/-- The guarded free of `free_job_buffers` frees a pointer that is unset or holds memory. -/
theorem MemMgr.freeNonEmpty_of_freeable (m : MemMgr) {buf : Option BufferDesc} (h : Freeable buf) :
    m.freeNonEmpty buf = (m.freeAll buf.toList, none) := by
  unfold MemMgr.freeNonEmpty
  cases buf with
  | none => rfl
  | some b =>
    obtain ⟨id, size, rfl, pos⟩ := h _ rfl
    simp [BufferDesc.nonEmpty, BufferDesc.size, pos, MemMgr.free_eq_freeAll]

/-- The task loop of `free_sg_buffers` frees the stack and then the private data of each
task. -/
theorem MemMgr.foldl_free_tasks (m : MemMgr) (ts : List Task) :
    ts.foldl (fun m t => (m.free t.stack).free t.privateData) m = m.freeAll (taskBuffers ts) := by
  induction ts generalizing m with
  | nil => rfl
  | cons t ts ih =>
    rw [List.foldl_cons, ih, MemMgr.free_eq_freeAll, MemMgr.free_eq_freeAll]
    simp [taskBuffers, Task.buffers]

/-- The reuse loop of `free_job_buffers` when it frees every position. -/
theorem freeReuses_of_all {owning : Nat → Bool} (all : ∀ k, owning k = true) (mem : MemMgr) (k : Nat)
    (bs : List BufferDesc) : freeReuses owning mem k bs = mem.freeAll bs := by
  induction bs generalizing mem k with
  | nil => rfl
  | cons b bs ih => simp only [freeReuses, all, if_true, ih]; rfl

/-- The reuse loop of `free_job_buffers` when it frees no position. -/
theorem freeReuses_of_none {owning : Nat → Bool} (none : ∀ k, owning k = false) (mem : MemMgr) (k : Nat)
    (bs : List BufferDesc) : freeReuses owning mem k bs = mem := by
  induction bs generalizing mem k with
  | nil => rfl
  | cons b bs ih => simp only [freeReuses, none, Bool.false_eq_true, if_false, ih]

/-- The job's loops walk a vector by position; over every position they see each entry
once, in order. -/
theorem flatMap_range'_getD {α β : Type} (g : α → List β) (d : α) :
    ∀ (l pre : List α), (List.range' pre.length l.length).flatMap (fun x => g ((pre ++ l).getD x d)) = l.flatMap g
  | [], _ => rfl
  | a :: l, pre => by
    have rest := flatMap_range'_getD g d l (pre ++ [a])
    simp only [List.length_append, List.length_singleton, List.append_assoc, List.singleton_append] at rest
    have first : (pre ++ a :: l).getD pre.length d = a := by
      rw [List.getD_append_right _ _ _ _ le_rfl, Nat.sub_self]; rfl
    simp only [List.length_cons, List.range'_succ, List.flatMap_cons, first, rest]

/-! ## The parts of `free_job_buffers` -/

/-- The job-wide part of `free_job_buffers`: each of the five job-wide pointers that holds
memory is freed and cleared. -/
def JobV3_1.freeJobWide (j : JobV3_1) : JobV3_1 :=
  let (mem, modelGlobalParam) := j.mem.freeNonEmpty j.modelGlobalParam
  let (mem, rodata) := mem.freeNonEmpty j.rodata
  let (mem, descriptor) := mem.freeNonEmpty j.descriptor
  let (mem, tcbs) := mem.freeNonEmpty j.tcbs
  let (mem, pprint) := mem.freeNonEmpty j.pprint
  { j with mem, modelGlobalParam, rodata, descriptor, tcbs, pprint }

/-- One pass of the subgraph loop of `free_job_buffers`: `free_sg_buffers` and the reset
of the record. -/
def JobV3_1.freeSgStep (j : JobV3_1) (i : Nat) : Except Fault JobV3_1 := do
  pure ((← j.freeSgBuffers i).modifySgTask i fun _ => SubGraphTask.reset i)

theorem JobV3_1.freeJobBuffers_eq (j : JobV3_1) :
    j.freeJobBuffers = (do
      let k ← (List.range j.freeJobWide.sgJob.length).foldlM JobV3_1.freeSgStep j.freeJobWide
      let k ← (List.range k.graph.bss.length).foldlM JobV3_1.freeBss k
      pure { k with sgJob := [], bssBufferVec := [], inputs := [], outputs := [],
                    dev := k.dev.putStartGroupId k.startGroupId k.sgCnt }) :=
  rfl

/-- The job-wide part changes only the memory manager and the five pointers. -/
theorem JobV3_1.freeJobWide_keeps (j : JobV3_1) :
    { j.freeJobWide with
      mem := j.mem, modelGlobalParam := j.modelGlobalParam, rodata := j.rodata,
      descriptor := j.descriptor, tcbs := j.tcbs, pprint := j.pprint } = j :=
  rfl

/-- The job-wide frees, when each pointer is unset or holds memory. -/
theorem JobV3_1.freeJobWide_eq {j : JobV3_1} (mgp : Freeable j.modelGlobalParam) (rodata : Freeable j.rodata)
    (descriptor : Freeable j.descriptor) (tcbs : Freeable j.tcbs) (pprint : Freeable j.pprint) :
    j.freeJobWide = { j with
      mem := j.mem.freeAll (j.modelGlobalParam.toList ++ j.rodata.toList ++ j.descriptor.toList ++
        j.tcbs.toList ++ j.pprint.toList),
      modelGlobalParam := none, rodata := none, descriptor := none, tcbs := none, pprint := none } := by
  simp only [JobV3_1.freeJobWide, MemMgr.freeNonEmpty_of_freeable _ mgp, MemMgr.freeNonEmpty_of_freeable _ rodata,
    MemMgr.freeNonEmpty_of_freeable _ descriptor, MemMgr.freeNonEmpty_of_freeable _ tcbs,
    MemMgr.freeNonEmpty_of_freeable _ pprint, MemMgr.freeAll_append]

/-- The first step of `free_sg_buffers`: `tot_priv` is freed when it holds memory, and
`m_top_priv_buf_freed` set. -/
def JobV3_1.freeTopPriv (j : JobV3_1) : JobV3_1 :=
  if BufferDesc.nonEmpty j.topPrivBuf then
    { j with mem := j.mem.free j.topPrivBuf, topPrivBuf := none, topPrivBufFreed := true } else j

/-- The second step of `free_sg_buffers`: the record's private buffers are freed unless
`tot_priv` was, and dropped. -/
def JobV3_1.dropPrivates (j : JobV3_1) (i : Nat) : JobV3_1 :=
  { j.modifySgTask i (fun t => { t with reusePrivBuffers := [] }) with
    mem := if j.topPrivBufFreed then j.mem else j.mem.freeAll (j.sgTask i).reusePrivBuffers }

theorem JobV3_1.freeSgBuffers_eq (j : JobV3_1) (i : Nat) :
    j.freeSgBuffers i = (do
      let k ← (j.freeTopPriv.dropPrivates i).sgtAllocated.foldlM JobV3_1.freeTasks
        (j.freeTopPriv.dropPrivates i)
      pure { k with sgtAllocated := [] }) :=
  rfl

/-- `tot_priv`, unset or holding memory, is freed and cleared. -/
theorem JobV3_1.freeTopPriv_eq {j : JobV3_1} (priv : Freeable j.topPrivBuf) :
    j.freeTopPriv = { j with mem := j.mem.freeAll j.topPrivBuf.toList, topPrivBuf := none,
                             topPrivBufFreed := j.topPrivBufFreed || j.topPrivBuf.isSome } := by
  unfold JobV3_1.freeTopPriv
  cases h : j.topPrivBuf with
  | none =>
    cases j
    subst h
    simp [BufferDesc.nonEmpty]
  | some b =>
    obtain ⟨id, size, rfl, pos⟩ := priv _ h
    simp [BufferDesc.nonEmpty, BufferDesc.size, pos, MemMgr.free_eq_freeAll]

/-- Dropping the private buffers of a record leaves every record's tasks. -/
theorem JobV3_1.dropPrivates_tasks (j : JobV3_1) (i a : Nat) :
    ((j.dropPrivates i).sgTask a).tasks = (j.sgTask a).tasks := by
  simp only [JobV3_1.dropPrivates, JobV3_1.sgTask, JobV3_1.modifySgTask, List.getD_eq_getElem?_getD,
    List.getElem?_modify]
  cases j.sgJob[a]? with
  | none => rfl
  | some t => by_cases h : i = a <;> simp [h]

/-! ## The subgraph loop -/

/-- The task loop of `free_sg_buffers` over distinct subgraphs, each with its
`m_task_per_sg` tasks: it frees all their tasks in order, and changes nothing but the
memory and the tasks. -/
theorem JobV3_1.foldlM_freeTasks (l : List Nat) (j : JobV3_1) (nodup : l.Nodup)
    (full : ∀ a ∈ l, (j.sgTask a).tasks.length = j.taskPerSg) :
    ∃ k, l.foldlM JobV3_1.freeTasks j = .ok k ∧ j.TaskFrame k ∧
      k.mem = j.mem.freeAll (l.flatMap fun a => taskBuffers (j.sgTask a).tasks) := by
  induction l generalizing j with
  | nil => exact ⟨j, rfl, .refl j, rfl⟩
  | cons a l ih =>
    obtain ⟨notMem, nodup⟩ := List.nodup_cons.mp nodup
    set j₁ : JobV3_1 := { j.modifySgTask a (fun t => { t with
      tasks := List.replicate j.taskPerSg ⟨none, none⟩ ++ t.tasks.drop j.taskPerSg }) with
      mem := j.mem.freeAll (taskBuffers (j.sgTask a).tasks) }
    have step : j.freeTasks a = .ok j₁ := by
      unfold JobV3_1.freeTasks
      rw [if_neg (by rw [full a (.head _)]; exact Nat.lt_irrefl _),
        List.take_of_length_le (full a (.head _)).le, MemMgr.foldl_free_tasks]
      rfl
    have same : ∀ x ∈ l, (j₁.sgTask x).tasks = (j.sgTask x).tasks := fun x h => by
      show ((j.modifySgTask a _).sgTask x).tasks = _
      rw [j.sgTask_modifySgTask_ne _ fun e => notMem (by rw [e]; exact h)]
    obtain ⟨k, run, tf, mem⟩ := ih j₁ nodup fun x h => by rw [same x h]; exact full x (.tail _ h)
    have frame := JobV3_1.TaskFrame.modifyTasks j a fun t =>
      List.replicate j.taskPerSg ⟨none, none⟩ ++ t.tasks.drop j.taskPerSg
    refine ⟨k, by rw [List.foldlM_cons, step]; exact run,
      (⟨frame.graph, frame.sgCnt, frame.privateBuffers, rfl, frame.length, frame.privates⟩ :
        j.TaskFrame j₁).trans tf, ?_⟩
    rw [mem, List.flatMap_cons, MemMgr.freeAll_append, List.flatMap, List.flatMap,
      List.map_congr_left fun x h => by rw [same x h]]

/-- A pass after the first: `tot_priv` is gone and `m_sgt_allocated` is empty, so the pass
frees the record's private buffers unless `tot_priv` was freed, and resets the record. -/
theorem JobV3_1.freeSgStep_rest (j : JobV3_1) (i : Nat) (priv : j.topPrivBuf = none)
    (noTasks : j.sgtAllocated = []) :
    j.freeSgStep i = .ok { j with
      mem := if j.topPrivBufFreed then j.mem else j.mem.freeAll (j.sgTask i).reusePrivBuffers,
      sgJob := j.sgJob.modify (fun _ => SubGraphTask.reset i) i } := by
  simp only [JobV3_1.freeSgStep, JobV3_1.freeSgBuffers, priv, noTasks, BufferDesc.nonEmpty,
    Option.any_none, Bool.false_eq_true, ↓reduceIte, List.foldlM_nil, pure_bind, bind_pure_comp,
    map_pure, JobV3_1.modifySgTask, List.modify_modify_eq]
  rfl

/-- The passes after the first, over any run of records. -/
theorem JobV3_1.foldlM_freeSgStep_rest (j : JobV3_1) (priv : j.topPrivBuf = none)
    (noTasks : j.sgtAllocated = []) (i m : Nat) :
    ∃ k, (List.range' i m).foldlM JobV3_1.freeSgStep j = .ok k ∧
      k = { j with mem := k.mem, sgJob := k.sgJob } ∧
      k.mem = j.mem.freeAll
        (if j.topPrivBufFreed then [] else (List.range' i m).flatMap fun x => (j.sgTask x).reusePrivBuffers) := by
  induction m generalizing j i with
  | zero => exact ⟨j, rfl, rfl, by split <;> rfl⟩
  | succ m ih =>
    set r : JobV3_1 := { j with
      mem := if j.topPrivBufFreed then j.mem else j.mem.freeAll (j.sgTask i).reusePrivBuffers,
      sgJob := j.sgJob.modify (fun _ => SubGraphTask.reset i) i } with hr
    obtain ⟨k, run, frame, mem⟩ := ih r priv noTasks (i + 1)
    have same : ∀ x ∈ List.range' (i + 1) m, (r.sgTask x).reusePrivBuffers = (j.sgTask x).reusePrivBuffers :=
      fun x h => by
        show ((j.modifySgTask i _).sgTask x).reusePrivBuffers = _
        rw [j.sgTask_modifySgTask_ne _ (by have := (List.mem_range'_1.mp h).1; omega)]
    refine ⟨k, by rw [List.range'_succ, List.foldlM_cons, j.freeSgStep_rest i priv noTasks]; exact run,
      frame, ?_⟩
    rw [mem, List.flatMap_congr same, hr, List.range'_succ, List.flatMap_cons]
    cases j.topPrivBufFreed <;> simp

/-- The first pass: `tot_priv` is freed, then the first record's private buffers unless
`tot_priv` was freed, then the tasks of every subgraph in `m_sgt_allocated`, which is
cleared. -/
theorem JobV3_1.freeSgStep_first {j : JobV3_1} (priv : Freeable j.topPrivBuf) (nodup : j.sgtAllocated.Nodup)
    (full : ∀ a ∈ j.sgtAllocated, (j.sgTask a).tasks.length = j.taskPerSg) :
    ∃ k, j.freeSgStep 0 = .ok k ∧
      k = { j with mem := k.mem, topPrivBuf := none,
                   topPrivBufFreed := j.topPrivBufFreed || j.topPrivBuf.isSome, sgJob := k.sgJob,
                   sgtAllocated := [] } ∧
      (∀ x, x ≠ 0 → (k.sgTask x).reusePrivBuffers = (j.sgTask x).reusePrivBuffers) ∧
      k.mem = ((j.mem.freeAll j.topPrivBuf.toList).freeAll
        (if j.topPrivBufFreed || j.topPrivBuf.isSome then [] else (j.sgTask 0).reusePrivBuffers)).freeAll
          j.taskPool := by
  have top := JobV3_1.freeTopPriv_eq priv
  set d := j.freeTopPriv.dropPrivates 0 with hd
  have alloc : d.sgtAllocated = j.sgtAllocated := by rw [hd, top]; rfl
  have per : d.taskPerSg = j.taskPerSg := by rw [hd, top]; rfl
  have tasks : ∀ a, (d.sgTask a).tasks = (j.sgTask a).tasks := fun a => by
    rw [hd, JobV3_1.dropPrivates_tasks, top]; rfl
  obtain ⟨k, run, tf, mem⟩ := JobV3_1.foldlM_freeTasks d.sgtAllocated d (alloc ▸ nodup)
    fun a h => by rw [tasks, per]; exact full a (alloc ▸ h)
  refine ⟨{ k with sgtAllocated := [] }.modifySgTask 0 fun _ => SubGraphTask.reset 0, ?_, ?_, ?_, ?_⟩
  · unfold JobV3_1.freeSgStep
    rw [JobV3_1.freeSgBuffers_eq, ← hd, run]
    rfl
  · rw [tf.others, hd, top]
    rfl
  · intro x ne
    rw [JobV3_1.sgTask_modifySgTask_ne _ _ (Ne.symm ne)]
    show (k.sgTask x).reusePrivBuffers = _
    rw [tf.privateBuffers x, hd]
    show ((j.freeTopPriv.modifySgTask 0 _).sgTask x).reusePrivBuffers = _
    rw [JobV3_1.sgTask_modifySgTask_ne _ _ (Ne.symm ne), top]
    rfl
  · show k.mem = _
    rw [mem, alloc, List.flatMap_congr fun a _ => by rw [tasks a], hd, top]
    cases j.topPrivBufFreed || j.topPrivBuf.isSome <;> rfl

/-- The subgraph loop of `free_job_buffers`. It frees `tot_priv`, the first record's
private buffers unless `tot_priv` was freed, the tasks of `m_sgt_allocated`, and the other
records' private buffers unless `tot_priv` was freed. `tot_priv` and the tasks are only
reached through a record, so a job that holds them has one. -/
theorem JobV3_1.foldlM_freeSgStep {j : JobV3_1} (priv : Freeable j.topPrivBuf) (nodup : j.sgtAllocated.Nodup)
    (full : ∀ a ∈ j.sgtAllocated, (j.sgTask a).tasks.length = j.taskPerSg)
    (records : j.sgJob = [] → j.topPrivBuf = none ∧ j.sgtAllocated = []) :
    ∃ k, (List.range j.sgJob.length).foldlM JobV3_1.freeSgStep j = .ok k ∧
      k = { j with mem := k.mem, topPrivBuf := none,
                   topPrivBufFreed := j.topPrivBufFreed || j.topPrivBuf.isSome, sgJob := k.sgJob,
                   sgtAllocated := [] } ∧
      k.mem = j.mem.freeAll (j.topPrivBuf.toList ++
        (if j.topPrivBufFreed || j.topPrivBuf.isSome then [] else (j.sgTask 0).reusePrivBuffers) ++
        j.taskPool ++ (if j.topPrivBufFreed || j.topPrivBuf.isSome then [] else
          (List.range' 1 (j.sgJob.length - 1)).flatMap fun x => (j.sgTask x).reusePrivBuffers)) := by
  cases h : j.sgJob with
  | nil =>
    obtain ⟨none', noTasks⟩ := records h
    refine ⟨j, rfl, ?_, ?_⟩
    · cases j
      subst h none' noTasks
      simp
    · simp [none', noTasks, JobV3_1.taskPool, JobV3_1.sgTask, h, default]
  | cons t rest =>
    obtain ⟨k, first, frame, privs, mem⟩ := JobV3_1.freeSgStep_first priv nodup full
    obtain ⟨k', run, frame', mem'⟩ := k.foldlM_freeSgStep_rest (by rw [frame]) (by rw [frame]) 1 rest.length
    refine ⟨k', by rw [List.length_cons, List.range_eq_range', List.range'_succ, List.foldlM_cons, first]; exact run,
      by rw [frame', frame], ?_⟩
    rw [mem', mem, List.flatMap_congr fun x hx => privs x (by have := (List.mem_range'_1.mp hx).1; omega)]
    have freed : k.topPrivBufFreed = (j.topPrivBufFreed || j.topPrivBuf.isSome) := by rw [frame]
    simp [freed]

/-! ## The BSS loop -/

/-- A pass of the BSS loop without `tot_reuse`, over an entry with no buffer replaced by
`specify_io_buffer`, frees every reuse buffer of the entry. -/
theorem JobV3_1.freeBss_scatter {j : JobV3_1} {i : Nat} (reuse : j.topReuseBuf = none)
    (lt : i < j.bssBufferVec.length) (dma : (j.bssBufferVec.getD i .empty).dmaBufIdx = []) :
    j.freeBss i = .ok { j with
      mem := j.mem.freeAll (j.bssBufferVec.getD i .empty).reuses,
      bssBufferVec := j.bssBufferVec.set i { (j.bssBufferVec.getD i .empty) with reuses := [], weights := false } } := by
  have get : j.bssBufferVec.get? i = some (j.bssBufferVec.getD i .empty) := by
    simp [List.getD_eq_getElem?_getD, lt]
  simp only [JobV3_1.freeBss, get, reuse, BufferDesc.nonEmpty, Option.any_none, Bool.false_eq_true, if_false,
    freeReuses_of_all (fun k => by simp only [dma, List.not_mem_nil, not_false_eq_true, decide_True] :
      ∀ k, decide (k ∉ (j.bssBufferVec.getD i .empty).dmaBufIdx) = true)]
  rfl

/-- The BSS loop from entry `i` on, without `tot_reuse`: every reuse buffer of the entries
it passes is freed. -/
theorem JobV3_1.foldlM_freeBss_scatter (j : JobV3_1) (reuse : j.topReuseBuf = none)
    (dma : ∀ e ∈ j.bssBufferVec, e.dmaBufIdx = []) (i m : Nat) (within : i + m ≤ j.bssBufferVec.length) :
    ∃ k, (List.range' i m).foldlM JobV3_1.freeBss j = .ok k ∧
      k = { j with mem := k.mem, bssBufferVec := k.bssBufferVec } ∧
      k.mem = j.mem.freeAll ((List.range' i m).flatMap fun x => (j.bssBufferVec.getD x .empty).reuses) := by
  induction m generalizing j i with
  | zero => exact ⟨j, rfl, rfl, rfl⟩
  | succ m ih =>
    have lt : i < j.bssBufferVec.length := by omega
    have entry : (j.bssBufferVec.getD i .empty).dmaBufIdx = [] :=
      dma _ (by simp [List.getD_eq_getElem?_getD, lt, List.getElem_mem])
    set j₁ := { j with
      mem := j.mem.freeAll (j.bssBufferVec.getD i .empty).reuses,
      bssBufferVec := j.bssBufferVec.set i { (j.bssBufferVec.getD i .empty) with reuses := [], weights := false } }
    obtain ⟨k, run, frame, mem⟩ := ih j₁ reuse
      (fun e he => (List.mem_or_eq_of_mem_set he).elim (dma e) fun h => h ▸ entry) (i + 1)
      (by simp only [j₁, List.length_set]; omega)
    refine ⟨k, by rw [List.range'_succ, List.foldlM_cons, JobV3_1.freeBss_scatter reuse lt entry]; exact run,
      frame, ?_⟩
    have later : ∀ x ∈ List.range' (i + 1) m, j₁.bssBufferVec.getD x .empty = j.bssBufferVec.getD x .empty :=
      fun x hx => by
        have : i ≠ x := by have := (List.mem_range'_1.mp hx).1; omega
        simp only [j₁, List.getD_eq_getElem?_getD, List.getElem?_set_ne this]
    rw [mem, List.flatMap_congr fun x hx => congrArg BssBuffer.reuses (later x hx)]
    simp [j₁, List.range'_succ]

/-- A pass of the BSS loop over an entry that is there succeeds, whatever the pointers
and the entry hold, and changes only the memory manager, `tot_reuse` and the entry. -/
theorem JobV3_1.freeBss_keeps {j : JobV3_1} {i : Nat} (lt : i < j.bssBufferVec.length) :
    ∃ k, j.freeBss i = .ok k ∧
      { k with mem := j.mem, topReuseBuf := j.topReuseBuf, bssBufferVec := j.bssBufferVec } = j ∧
      k.bssBufferVec.length = j.bssBufferVec.length := by
  have get : j.bssBufferVec.get? i = some (j.bssBufferVec.getD i .empty) := by
    simp [List.getD_eq_getElem?_getD, lt]
  simp only [JobV3_1.freeBss, get]
  split <;> exact ⟨_, rfl, rfl, List.length_set _ _ _⟩

/-- The BSS loop over entries that are there succeeds, and changes only the memory
manager, `tot_reuse` and the entries. -/
theorem JobV3_1.foldlM_freeBss_keeps (j : JobV3_1) :
    ∀ (l : List Nat), (∀ i ∈ l, i < j.bssBufferVec.length) →
      ∃ k, l.foldlM JobV3_1.freeBss j = .ok k ∧
        { k with mem := j.mem, topReuseBuf := j.topReuseBuf, bssBufferVec := j.bssBufferVec } = j
  | [], _ => ⟨j, rfl, rfl⟩
  | i :: l, within => by
    obtain ⟨k, step, frame, length⟩ := JobV3_1.freeBss_keeps (within i (.head _))
    obtain ⟨k', run, frame'⟩ := k.foldlM_freeBss_keeps l fun x hx => length ▸ within x (.tail _ hx)
    refine ⟨k', by rw [List.foldlM_cons, step]; exact run, ?_⟩
    rw [← frame, ← frame']

/-- The first pass of the BSS loop with `tot_reuse` and no reuse position claimed by GM
frees `tot_reuse` and nothing else. -/
theorem JobV3_1.freeBss_central {j : JobV3_1} {b : BufferDesc} (top : j.topReuseBuf = some b)
    (reuse : Freeable j.topReuseBuf) (gm : j.graph.gmReuse = []) (lt : 0 < j.bssBufferVec.length) :
    j.freeBss 0 = .ok { j with
      mem := j.mem.freeAll [b], topReuseBuf := none,
      bssBufferVec := j.bssBufferVec.set 0 { (j.bssBufferVec.getD 0 .empty) with reuses := [], weights := false } } := by
  obtain ⟨id, size, rfl, pos⟩ := reuse b top
  have get : j.bssBufferVec.get? 0 = some (j.bssBufferVec.getD 0 .empty) := by
    simp [List.getD_eq_getElem?_getD, lt]
  simp only [JobV3_1.freeBss, get, top, BufferDesc.nonEmpty, Option.any_some, BufferDesc.size, pos,
    decide_True, if_true, gm, freeReuses_of_none (fun k => decide_eq_false (List.not_mem_nil k))]
  rfl

/-- The BSS loop of `free_job_buffers`. With `tot_reuse` it frees `tot_reuse` and nothing
else, when GM claims no reuse position and the BSSs past the first hold no reuse buffer;
without it every reuse buffer of every BSS. -/
theorem JobV3_1.foldlM_freeBss {j : JobV3_1} (length : j.bssBufferVec.length = j.graph.bss.length)
    (reuse : Freeable j.topReuseBuf) (dma : ∀ e ∈ j.bssBufferVec, e.dmaBufIdx = [])
    (central : ∀ b ∈ j.topReuseBuf,
      j.graph.gmReuse = [] ∧ j.bssBufferVec ≠ [] ∧ ∀ e ∈ j.bssBufferVec.tail, e.reuses = []) :
    ∃ k, (List.range j.graph.bss.length).foldlM JobV3_1.freeBss j = .ok k ∧
      k = { j with mem := k.mem, topReuseBuf := none, bssBufferVec := k.bssBufferVec } ∧
      k.mem = j.mem.freeAll (j.topReuseBuf.toList ++
        if j.topReuseBuf.isSome then [] else j.bssBufferVec.flatMap BssBuffer.reuses) := by
  rw [← length, List.range_eq_range']
  cases top : j.topReuseBuf with
  | none =>
    obtain ⟨k, run, frame, mem⟩ := j.foldlM_freeBss_scatter top dma 0 _ (Nat.zero_add _).le
    refine ⟨k, run, by rw [frame, ← top], ?_⟩
    have whole := flatMap_range'_getD BssBuffer.reuses .empty j.bssBufferVec []
    rw [List.nil_append, List.length_nil] at whole
    rw [mem, whole]
    rfl
  | some b =>
    obtain ⟨gm, e, rest, vec, tail⟩ : j.graph.gmReuse = [] ∧ ∃ e rest, j.bssBufferVec = e :: rest ∧
        ∀ e' ∈ rest, e'.reuses = [] := by
      obtain ⟨gm, ne, tail⟩ := central b top
      obtain ⟨e, rest, vec⟩ := List.exists_cons_of_ne_nil ne
      exact ⟨gm, e, rest, vec, by rw [vec] at tail; exact tail⟩
    have lt : 0 < j.bssBufferVec.length := by rw [vec]; exact Nat.succ_pos _
    set j₁ := { j with
      mem := j.mem.freeAll [b], topReuseBuf := none,
      bssBufferVec := j.bssBufferVec.set 0 { (j.bssBufferVec.getD 0 .empty) with reuses := [], weights := false } }
    have dma₁ : ∀ e ∈ j₁.bssBufferVec, e.dmaBufIdx = [] := fun e' he =>
      (List.mem_or_eq_of_mem_set he).elim (dma e') fun h => by
        rw [h]; exact dma (j.bssBufferVec.getD 0 .empty) (by rw [vec]; exact List.mem_cons_self _ _)
    obtain ⟨k, run, frame, mem⟩ := j₁.foldlM_freeBss_scatter rfl dma₁ 1 rest.length
      (by simp [j₁, vec]; omega)
    refine ⟨k, by rw [vec, List.length_cons, List.range'_succ, List.foldlM_cons,
      JobV3_1.freeBss_central top reuse gm lt]; exact run, frame, ?_⟩
    have empty : ∀ x ∈ List.range' 1 rest.length, (j₁.bssBufferVec.getD x .empty).reuses = [] := by
      intro x hx
      obtain ⟨y, rfl⟩ : ∃ y, x = y + 1 := ⟨x - 1, by have := (List.mem_range'_1.mp hx).1; omega⟩
      simp only [j₁, vec, List.set_cons_zero, List.getD_cons_succ]
      cases h : rest[y]? with
      | none => simp [List.getD_eq_getElem?_getD, h, BssBuffer.empty]
      | some e' => simp [List.getD_eq_getElem?_getD, h, tail e' (List.getElem?_mem h)]
    rw [mem, List.flatMap_eq_nil_iff.mpr empty]
    rfl

/-! ## `destroy` -/

/-- What `free_job_buffers` needs to free each buffer of a job once: the pointers it frees
hold memory or are unset; every subgraph of `m_sgt_allocated` is there once with its
`m_task_per_sg` tasks; a job with `tot_priv` or tasks has a record to reach them through;
there is a BSS buffer for each BSS of the graph, none replaced by `specify_io_buffer`; and
with `tot_reuse` GM claims no reuse position and only the first BSS holds reuse buffers. -/
structure JobV3_1.Releasable (j : JobV3_1) : Prop where
  modelGlobalParam : Freeable j.modelGlobalParam
  rodata : Freeable j.rodata
  descriptor : Freeable j.descriptor
  tcbs : Freeable j.tcbs
  pprint : Freeable j.pprint
  topPriv : Freeable j.topPrivBuf
  topReuse : Freeable j.topReuseBuf
  nodup : j.sgtAllocated.Nodup
  full : ∀ a ∈ j.sgtAllocated, (j.sgTask a).tasks.length = j.taskPerSg
  records : j.sgJob = [] → j.topPrivBuf = none ∧ j.sgtAllocated = []
  bssLength : j.bssBufferVec.length = j.graph.bss.length
  dma : ∀ e ∈ j.bssBufferVec, e.dmaBufIdx = []
  central : ∀ b ∈ j.topReuseBuf,
    j.graph.gmReuse = [] ∧ j.bssBufferVec ≠ [] ∧ ∀ e ∈ j.bssBufferVec.tail, e.reuses = []

/-- `free_sg_buffers` only drops the private buffers once `tot_priv` is freed. -/
def JobV3_1.privatesDropped (j : JobV3_1) : Bool := j.topPrivBufFreed || j.topPrivBuf.isSome

/-- The reuse buffers `free_job_buffers` only drops: with `tot_reuse` it frees those GM
claims, none of them when GM claims none. -/
def JobV3_1.droppedReuses (j : JobV3_1) : List BufferDesc :=
  if j.topReuseBuf.isSome then j.bssBufferVec.flatMap BssBuffer.reuses else []

/-- The buffers `free_job_buffers` frees, in the order it frees them. -/
def JobV3_1.releaseOrder (j : JobV3_1) : List BufferDesc :=
  j.modelGlobalParam.toList ++ j.rodata.toList ++ j.descriptor.toList ++ j.tcbs.toList ++
    j.pprint.toList ++ j.topPrivBuf.toList ++
    (if j.privatesDropped then [] else (j.sgTask 0).reusePrivBuffers) ++ j.taskPool ++
    (if j.privatesDropped then [] else
      (List.range' 1 (j.sgJob.length - 1)).flatMap fun x => (j.sgTask x).reusePrivBuffers) ++
    j.topReuseBuf.toList ++ (if j.topReuseBuf.isSome then [] else j.bssBufferVec.flatMap BssBuffer.reuses)

/-- `destroy` of a releasable job succeeds: it frees the buffers of `releaseOrder` in that
order, clears every pointer, record and buffer list, and gives the group ids back. -/
theorem JobV3_1.destroy_frees {j : JobV3_1} (r : j.Releasable) :
    j.destroy = .ok { j with
      mem := j.mem.freeAll j.releaseOrder, modelGlobalParam := none, rodata := none,
      descriptor := none, tcbs := none, pprint := none, topPrivBuf := none,
      topPrivBufFreed := j.privatesDropped, topReuseBuf := none, sgJob := [], bssBufferVec := [],
      sgtAllocated := [], inputs := [], outputs := [],
      dev := j.dev.putStartGroupId j.startGroupId j.sgCnt } := by
  rw [JobV3_1.destroy, JobV3_1.freeJobBuffers_eq,
    JobV3_1.freeJobWide_eq r.modelGlobalParam r.rodata r.descriptor r.tcbs r.pprint]
  obtain ⟨k, sg, frame, mem⟩ := JobV3_1.foldlM_freeSgStep (j := { j with
      mem := j.mem.freeAll (j.modelGlobalParam.toList ++ j.rodata.toList ++ j.descriptor.toList ++
        j.tcbs.toList ++ j.pprint.toList),
      modelGlobalParam := none, rodata := none, descriptor := none, tcbs := none, pprint := none })
    r.topPriv r.nodup r.full r.records
  obtain ⟨k', bss, frame', mem'⟩ := JobV3_1.foldlM_freeBss (j := k) (by rw [frame]; exact r.bssLength)
    (by rw [frame]; exact r.topReuse) (by rw [frame]; exact r.dma) (by rw [frame]; exact r.central)
  rw [sg]
  simp only [bind, Except.bind, bss, pure, Except.pure]
  generalize k'.mem = m₂, k'.bssBufferVec = b₂ at frame' mem'
  subst frame' mem'
  generalize k.mem = m₁, k.sgJob = s₁ at frame mem
  subst frame mem
  simp only [JobV3_1.releaseOrder, MemMgr.freeAll_append]
  rfl

/-- The private buffers `free_sg_buffers` frees one by one are those of the records, the
first record's and then the others'. -/
theorem JobV3_1.privates_split (j : JobV3_1) :
    (j.sgTask 0).reusePrivBuffers ++
        ((List.range' 1 (j.sgJob.length - 1)).flatMap fun x => (j.sgTask x).reusePrivBuffers) =
      j.sgJob.flatMap SubGraphTask.reusePrivBuffers := by
  unfold JobV3_1.sgTask
  cases j.sgJob with
  | nil => rfl
  | cons t rest =>
    have rest := flatMap_range'_getD SubGraphTask.reusePrivBuffers default rest [t]
    rw [List.flatMap_cons, List.length_cons, Nat.add_sub_cancel, ← rest]
    rfl

/-! ## After `init` -/

section Loaded

variable {j : JobV3_1} (loaded : j.Loaded)

include loaded

/-- `init` leaves `tot_priv` not yet freed, so the private buffers are dropped exactly when
there is a `tot_priv`. -/
theorem JobV3_1.Loaded.privatesDropped_eq : j.privatesDropped = j.topPrivBuf.isSome := by
  rw [JobV3_1.privatesDropped, loaded.notFreed, Bool.false_or]

/-- `tot_priv` and the tasks of `init` belong to subgraphs, so a loaded job without
records has neither. -/
theorem JobV3_1.Loaded.records (empty : j.sgJob = []) : j.topPrivBuf = none ∧ j.sgtAllocated = [] := by
  have none : j.sgCnt = 0 := by rw [← loaded.length, empty]; rfl
  refine ⟨Option.eq_none_iff_forall_not_mem.mpr fun b hb => (loaded.views (by rw [hb]; nofun)).1 none,
    List.eq_nil_iff_forall_not_mem.mpr fun a ha => ?_⟩
  exact Nat.not_lt_zero a (none ▸ (loaded.allocated a ha).1)

/-- A loaded job is releasable once its model global parameter holds memory whenever it is
allocated, and on the centralized path GM claims no reuse section, some non-empty reuse
section of BSS 0 is central and `reuse_buf_total_size` does not wrap, so that `tot_reuse`
holds memory. -/
theorem JobV3_1.Loaded.releasable
    (param : j.graph.dynamicShape = true → j.configShape ≠ [] → 0 < j.graph.globalParamSize)
    (central : j.fmMemRegionDefault = true → j.graph.gmReuse = [] ∧
      (∃ k sec, j.graph.bss0.reuseSections[k]? = some sec ∧ sec.size ≠ 0 ∧ j.reuseKind k = .central) ∧
      ((j.graph.bss0.reuseSections.enum.filter fun p => j.reuseKind p.1 = .central).map
        fun p => alignPage p.2.size).sum < 2 ^ 32) :
    j.Releasable where
  modelGlobalParam b hb := by
    obtain ⟨⟨id, e⟩, dyn, shapes⟩ := loaded.modelGlobalParam b hb
    exact ⟨id, _, e, param dyn shapes⟩
  rodata := loaded.rodata
  descriptor := loaded.descriptor
  tcbs := loaded.tcbs
  pprint := loaded.pprint
  topPriv := loaded.topPriv
  topReuse b hb := by
    obtain ⟨fm, ⟨id, size, e, pos⟩, -⟩ := loaded.central b hb
    obtain ⟨-, ⟨k, sec, get, ne, kind⟩, fits⟩ := central fm
    exact ⟨id, size, e, pos fits k sec get ne kind⟩
  nodup := loaded.nodup
  full a ha := (loaded.allocated a ha).2
  records := loaded.records
  bssLength := loaded.bss.resolve_left loaded.bssNonempty
  dma e he := by
    cases top : j.topReuseBuf with
    | none => exact (loaded.scatter top e he).1
    | some b =>
      obtain ⟨-, -, R, vec, -⟩ := loaded.central b top
      rw [vec] at he
      obtain ⟨x, -, rfl⟩ := List.mem_map.mp he
      split <;> rfl
  central b hb := by
    obtain ⟨fm, -, R, vec, -⟩ := loaded.central b hb
    refine ⟨(central fm).1, loaded.bssNonempty, fun e he => ?_⟩
    rw [vec, ← List.map_tail, List.tail_range] at he
    obtain ⟨x, hx, rfl⟩ := List.mem_map.mp he
    rw [if_neg (by have := (List.mem_range'_1.mp hx).1; omega)]
    rfl

/-- Every buffer `free_job_buffers` frees in a loaded job is an allocation. -/
theorem JobV3_1.Loaded.releaseOrder_owned : ∀ b ∈ j.releaseOrder, b.Owned := by
  have freeable : ∀ {o : Option BufferDesc}, Freeable o → ∀ b ∈ o.toList, b.Owned := fun h b hb =>
    let ⟨id, size, e, _⟩ := h b (Option.mem_toList.mp hb); ⟨id, size, e⟩
  have privates : ∀ b ∈ (if j.privatesDropped then [] else (j.sgTask 0).reusePrivBuffers) ++
      (if j.privatesDropped then [] else
        (List.range' 1 (j.sgJob.length - 1)).flatMap fun x => (j.sgTask x).reusePrivBuffers), b.Owned := by
    rw [loaded.privatesDropped_eq]
    cases top : j.topPrivBuf with
    | none => rw [Option.isSome_none, if_neg Bool.false_ne_true, if_neg Bool.false_ne_true, j.privates_split]
              exact loaded.privates top
    | some _ => nofun
  have reuses : ∀ b ∈ (if j.topReuseBuf.isSome then [] else j.bssBufferVec.flatMap BssBuffer.reuses),
      b.Owned := by
    cases top : j.topReuseBuf with
    | none => intro b hb
              obtain ⟨e, he, hb⟩ := List.mem_flatMap.mp hb
              exact (loaded.scatter top e he).2 b hb
    | some _ => nofun
  intro b hb
  simp only [JobV3_1.releaseOrder, List.mem_append] at hb
  rcases hb with (((((((((mgp | hb) | hb) | hb) | hb) | hb) | p₀) | pool) | p) | hb) | bss
  · obtain ⟨⟨id, e⟩, -⟩ := loaded.modelGlobalParam b (Option.mem_toList.mp mgp)
    exact ⟨id, _, e⟩
  · exact freeable loaded.rodata b hb
  · exact freeable loaded.descriptor b hb
  · exact freeable loaded.tcbs b hb
  · exact freeable loaded.pprint b hb
  · exact freeable loaded.topPriv b hb
  · exact privates b (List.mem_append_left _ p₀)
  · exact loaded.taskOwned b pool
  · exact privates b (List.mem_append_right _ p)
  · obtain ⟨-, ⟨id, size, e, -⟩, -⟩ := loaded.central b (Option.mem_toList.mp hb)
    exact ⟨id, size, e⟩
  · exact reuses b bss

/-- In a loaded job, `free_job_buffers` frees each allocation the job holds once, except
those among the reuse buffers it only drops. -/
theorem JobV3_1.Loaded.releaseOrder_allocIds :
    allocIds j.releaseOrder + allocIds j.droppedReuses = allocIds j.holdings := by
  have privates : allocIds (if j.privatesDropped then [] else (j.sgTask 0).reusePrivBuffers) +
      allocIds (if j.privatesDropped then [] else
        (List.range' 1 (j.sgJob.length - 1)).flatMap fun x => (j.sgTask x).reusePrivBuffers) =
      allocIds (j.sgJob.flatMap SubGraphTask.reusePrivBuffers) := by
    rw [loaded.privatesDropped_eq]
    cases top : j.topPrivBuf with
    | none => rw [Option.isSome_none, if_neg Bool.false_ne_true, if_neg Bool.false_ne_true,
                ← allocIds_append, j.privates_split]
    | some _ => rw [allocIds_eq_zero (loaded.views (by rw [top]; nofun)).2]; rfl
  have reuses : allocIds (if j.topReuseBuf.isSome then [] else j.bssBufferVec.flatMap BssBuffer.reuses) +
      allocIds j.droppedReuses = allocIds (j.bssBufferVec.flatMap BssBuffer.reuses) := by
    unfold JobV3_1.droppedReuses
    cases j.topReuseBuf.isSome <;> simp
  simp only [JobV3_1.releaseOrder, JobV3_1.holdings, allocIds_append, ← privates, ← reuses]
  ac_rfl

/-- With every reuse section central on the centralized path, the reuse buffers
`free_job_buffers` drops are views of `tot_reuse`, none an allocation. -/
theorem JobV3_1.Loaded.droppedReuses_views (all : j.fmMemRegionDefault = true → ∀ k, j.reuseKind k = .central) :
    allocIds j.droppedReuses = 0 := by
  unfold JobV3_1.droppedReuses
  cases top : j.topReuseBuf with
  | none => rfl
  | some b =>
    obtain ⟨fm, -, R, vec, views⟩ := loaded.central b top
    refine allocIds_eq_zero fun c hc => ?_
    rw [Option.isSome_some, if_pos rfl, vec] at hc
    obtain ⟨e, he, hc⟩ := List.mem_flatMap.mp hc
    obtain ⟨x, -, rfl⟩ := List.mem_map.mp he
    split at hc
    · exact views (all fm) c hc
    · nomatch hc

/-- `destroy` of a loaded job succeeds and gives the job's group ids back, whatever its
buffers hold. -/
theorem JobV3_1.Loaded.destroy_ok :
    ∃ j', j.destroy = .ok j' ∧ j'.dev = j.dev.putStartGroupId j.startGroupId j.sgCnt := by
  rw [JobV3_1.destroy, JobV3_1.freeJobBuffers_eq]
  have wide := j.freeJobWide_keeps
  obtain ⟨k, sg, frame, -⟩ := JobV3_1.foldlM_freeSgStep (j := j.freeJobWide)
    (by rw [← wide] at loaded; exact loaded.topPriv) (by rw [← wide] at loaded; exact loaded.nodup)
    (by rw [← wide] at loaded; exact fun a ha => (loaded.allocated a ha).2)
    (by rw [← wide] at loaded; exact loaded.records)
  have bssLength : k.bssBufferVec.length = k.graph.bss.length := by
    rw [frame, ← wide] at *
    exact loaded.bss.resolve_left loaded.bssNonempty
  obtain ⟨k', bss, frame'⟩ := k.foldlM_freeBss_keeps (List.range k.graph.bss.length)
    fun i hi => bssLength ▸ List.mem_range.mp hi
  have groups := fun {a b : JobV3_1} (h : a = b) =>
    congrArg (fun x : JobV3_1 => x.dev.putStartGroupId x.startGroupId x.sgCnt) h
  rw [sg]
  simp only [bind, Except.bind, bss, pure, Except.pure]
  have g₁ := groups frame'
  have g₂ := groups frame
  have g₃ := groups wide
  exact ⟨_, rfl, (g₁.trans g₂).trans g₃⟩

end Loaded

/-- A job after a successful `init` is releasable when its model global parameter holds
memory whenever it is allocated and, on the centralized path, GM claims no reuse section,
some non-empty reuse section of BSS 0 is not in `m_fm_idxes`, and the reuse sections
outside `m_fm_idxes` add up to less than `2^32` bytes. -/
theorem JobV3_1.init_releasable (graph : Graph) (fmMemRegionDefault : Bool) (fmIdxes : List Nat)
    (dynShapeSet : Bool) (configShape : List Bool) (mem : MemMgr) (dev : Device) {j : JobV3_1}
    (param : graph.dynamicShape = true → configShape ≠ [] → 0 < graph.globalParamSize)
    (central : fmMemRegionDefault = true → graph.gmReuse = [] ∧
      (∃ k sec, graph.bss0.reuseSections[k]? = some sec ∧ sec.size ≠ 0 ∧ k ∉ fmIdxes) ∧
      ((graph.bss0.reuseSections.enum.filter fun p => p.1 ∉ fmIdxes).map
        fun p => alignPage p.2.size).sum < 2 ^ 32)
    (ok : (JobV3_1.create graph fmMemRegionDefault fmIdxes dynShapeSet configShape mem dev).init =
      .ok (j, .success)) :
    j.Releasable := by
  obtain ⟨loaded, -, rfl, rfl, rfl, rfl, -⟩ := JobV3_1.init_loaded ok
  refine loaded.releasable param fun fm => ?_
  obtain ⟨gm, ⟨k, sec, get, ne, notFm⟩, fits⟩ := central fm
  have kind : ∀ n, (j.reuseKind n = .central) = (n ∉ j.fmIdxes) := fun n => by
    simp [JobV3_1.reuseKind, gm]
  refine ⟨gm, ⟨k, sec, get, ne, by rw [kind]; exact notFm⟩, ?_⟩
  simpa only [kind] using fits

/-- After a successful `init` of a releasable job, `destroy` gives back every allocation
`init` made except those among the reuse buffers it only drops. -/
theorem JobV3_1.init_destroy_live (graph : Graph) (fmMemRegionDefault : Bool) (fmIdxes : List Nat)
    (dynShapeSet : Bool) (configShape : List Bool) (mem : MemMgr) (dev : Device) {j : JobV3_1}
    (param : graph.dynamicShape = true → configShape ≠ [] → 0 < graph.globalParamSize)
    (central : fmMemRegionDefault = true → graph.gmReuse = [] ∧
      (∃ k sec, graph.bss0.reuseSections[k]? = some sec ∧ sec.size ≠ 0 ∧ k ∉ fmIdxes) ∧
      ((graph.bss0.reuseSections.enum.filter fun p => p.1 ∉ fmIdxes).map
        fun p => alignPage p.2.size).sum < 2 ^ 32)
    (ok : (JobV3_1.create graph fmMemRegionDefault fmIdxes dynShapeSet configShape mem dev).init =
      .ok (j, .success)) :
    ∃ j', j.destroy = .ok j' ∧ (j'.mem.live : Multiset Nat) = mem.live + allocIds j.droppedReuses ∧
      j'.mem.misuse = mem.misuse := by
  have releasable := JobV3_1.init_releasable _ _ _ _ _ _ _ param central ok
  obtain ⟨loaded, acc, -⟩ := JobV3_1.init_loaded ok
  obtain ⟨live, misuse⟩ := MemMgr.foldl_free_live loaded.releaseOrder_owned
    (X := mem.live + allocIds j.droppedReuses)
    (by rw [acc.live, ← loaded.releaseOrder_allocIds, add_comm (allocIds j.releaseOrder), add_assoc])
  exact ⟨_, JobV3_1.destroy_frees releasable, live, misuse.trans acc.misuse⟩

theorem destroy_frees_e3 :
    ∃ j, (JobV3_1.create e3Graph true [] false [] .fresh (.once 0)).init = .ok (j, .success) ∧
      j.destroy = .ok { j with
        mem := j.mem.freeAll j.releaseOrder, modelGlobalParam := none, rodata := none,
        descriptor := none, tcbs := none, pprint := none, topPrivBuf := none,
        topPrivBufFreed := j.privatesDropped, topReuseBuf := none, sgJob := [], bssBufferVec := [],
        sgtAllocated := [], inputs := [], outputs := [],
        dev := j.dev.putStartGroupId j.startGroupId j.sgCnt } :=
  ⟨_, rfl, JobV3_1.destroy_frees
    (JobV3_1.init_releasable e3Graph true [] false [] .fresh (.once 0) (by decide)
      (fun _ => ⟨rfl, ⟨0, _, rfl, by decide, by decide⟩, by decide⟩) rfl)⟩

/-- `destroy` after a successful `init` gives back every allocation `init` made, and frees
nothing wrongly, when the model global parameter holds memory whenever it is allocated
and the centralized path puts every reuse section of BSS 0 in `tot_reuse`, one of them
not empty, and their page-aligned sizes add up to less than `2^32`. -/
theorem init_destroy_releases_all (graph : Graph) (fmMemRegionDefault : Bool) (fmIdxes : List Nat)
    (dynShapeSet : Bool) (configShape : List Bool) (mem : MemMgr) (dev : Device) {j : JobV3_1}
    (param : graph.dynamicShape = true → configShape ≠ [] → 0 < graph.globalParamSize)
    (central : fmMemRegionDefault = true →
      graph.gmReuse = [] ∧ fmIdxes = [] ∧ (∃ sec ∈ graph.bss0.reuseSections, sec.size ≠ 0) ∧
        (graph.bss0.reuseSections.map fun sec => alignPage sec.size).sum < 2 ^ 32)
    (ok : (JobV3_1.create graph fmMemRegionDefault fmIdxes dynShapeSet configShape mem dev).init =
      .ok (j, .success)) :
    ∃ j', j.destroy = .ok j' ∧ (j'.mem.live : Multiset Nat) = mem.live ∧ j'.mem.misuse = mem.misuse := by
  obtain ⟨j', destroyed, live, misuse⟩ := JobV3_1.init_destroy_live _ _ _ _ _ _ _ param (fun fm => by
    obtain ⟨gm, rfl, ⟨sec, mem, ne⟩, fits⟩ := central fm
    obtain ⟨k, get⟩ := List.mem_iff_getElem?.mp mem
    have sizes : (graph.bss0.reuseSections.enum.map fun p => alignPage p.2.size) =
        graph.bss0.reuseSections.map fun sec => alignPage sec.size := by
      nth_rewrite 2 [← List.enum_map_snd graph.bss0.reuseSections]
      rw [List.map_map]
      rfl
    refine ⟨gm, ⟨k, sec, get, ne, List.not_mem_nil k⟩, ?_⟩
    simpa [sizes] using fits) ok
  obtain ⟨loaded, -, created⟩ := JobV3_1.init_loaded ok
  have views := loaded.droppedReuses_views fun fm k => by
    obtain ⟨gm, idx, -⟩ := central (created.fmMemRegionDefault ▸ fm)
    simp [JobV3_1.reuseKind, created.graph, created.fmIdxes, gm, idx]
  exact ⟨j', destroyed, by rw [live, views, add_zero], misuse⟩

theorem init_destroy_releases_all_e3 :
    (e3Graph.dynamicShape = true → ([] : List Bool) ≠ [] → 0 < e3Graph.globalParamSize) ∧
      (true = true → e3Graph.gmReuse = [] ∧ ([] : List Nat) = [] ∧
        (∃ sec ∈ e3Graph.bss0.reuseSections, sec.size ≠ 0) ∧
        (e3Graph.bss0.reuseSections.map fun sec => alignPage sec.size).sum < 2 ^ 32) ∧
      ∃ j, (JobV3_1.create e3Graph true [] false [] .fresh (.once 0)).init = .ok (j, .success) ∧
        ∃ j', j.destroy = .ok j' ∧ (j'.mem.live : Multiset Nat) = MemMgr.fresh.live ∧
          j'.mem.misuse = MemMgr.fresh.misuse :=
  ⟨by decide, by decide, _, rfl,
    init_destroy_releases_all e3Graph true [] false [] .fresh (.once 0) (by decide) (by decide) rfl⟩

/-- `destroy` after a successful `init` leaves allocated exactly the allocations among the
reuse buffers it only drops, those of BSS 0 on the centralized path, whatever `m_fm_idxes`
holds; every other allocation `init` made is given back, and nothing is freed wrongly. -/
theorem init_destroy_leaves_dropped_reuses (graph : Graph) (fmMemRegionDefault : Bool) (fmIdxes : List Nat)
    (dynShapeSet : Bool) (configShape : List Bool) (mem : MemMgr) (dev : Device) {j : JobV3_1}
    (param : graph.dynamicShape = true → configShape ≠ [] → 0 < graph.globalParamSize)
    (central : fmMemRegionDefault = true → graph.gmReuse = [] ∧
      (∃ k sec, graph.bss0.reuseSections[k]? = some sec ∧ sec.size ≠ 0 ∧ k ∉ fmIdxes) ∧
      ((graph.bss0.reuseSections.enum.filter fun p => p.1 ∉ fmIdxes).map
        fun p => alignPage p.2.size).sum < 2 ^ 32)
    (ok : (JobV3_1.create graph fmMemRegionDefault fmIdxes dynShapeSet configShape mem dev).init =
      .ok (j, .success)) :
    ∃ j', j.destroy = .ok j' ∧ (j'.mem.live : Multiset Nat) = mem.live + allocIds j.droppedReuses ∧
      j'.mem.misuse = mem.misuse :=
  JobV3_1.init_destroy_live graph fmMemRegionDefault fmIdxes dynShapeSet configShape mem dev param central ok

/-- `e3Graph` with a second non-empty reuse section in BSS 0. -/
def fmGraph : Graph := { e3Graph with bss := [⟨[⟨4096⟩, ⟨8192⟩], 1024, default, []⟩] }

theorem init_destroy_leaves_dropped_reuses_fm :
    (fmGraph.dynamicShape = true → ([] : List Bool) ≠ [] → 0 < fmGraph.globalParamSize) ∧
      (true = true → fmGraph.gmReuse = [] ∧
        (∃ k sec, fmGraph.bss0.reuseSections[k]? = some sec ∧ sec.size ≠ 0 ∧ k ∉ [1]) ∧
        ((fmGraph.bss0.reuseSections.enum.filter fun p => p.1 ∉ [1]).map
          fun p => alignPage p.2.size).sum < 2 ^ 32) ∧
      ∃ j, (JobV3_1.create fmGraph true [1] false [] .fresh (.once 0)).init = .ok (j, .success) ∧
        ∃ j', j.destroy = .ok j' ∧ (j'.mem.live : Multiset Nat) = MemMgr.fresh.live + allocIds j.droppedReuses ∧
          j'.mem.misuse = MemMgr.fresh.misuse :=
  have central : true = true → fmGraph.gmReuse = [] ∧
      (∃ k sec, fmGraph.bss0.reuseSections[k]? = some sec ∧ sec.size ≠ 0 ∧ k ∉ [1]) ∧
      ((fmGraph.bss0.reuseSections.enum.filter fun p => p.1 ∉ [1]).map
        fun p => alignPage p.2.size).sum < 2 ^ 32 :=
    fun _ => ⟨rfl, ⟨0, _, rfl, by decide, by decide⟩, by decide⟩
  ⟨by decide, central, _, rfl,
    init_destroy_leaves_dropped_reuses fmGraph true [1] false [] .fresh (.once 0) (by decide) central rfl⟩

/-- A granted request for a positive count is logged as one `get` of the start it
grants. -/
theorem Device.getStartGroupId_log {d d' : Device} {count old start : Nat} (nonzero : count ≠ 0)
    (granted : d.getStartGroupId count old = (d', some start)) :
    d'.groupLog = d.groupLog ++ [.get start count] := by
  unfold Device.getStartGroupId at granted
  rw [if_neg nonzero] at granted
  split at granted
  · cases granted
    rfl
  · cases granted

/-- `destroy` after a successful `init` succeeds, whatever the job's buffers hold, and
gives back the group ids `init` took, once: the device sees one `get` of the job's
range and then one `put` of the same range. -/
theorem init_destroy_returns_group_ids (graph : Graph) (fmMemRegionDefault : Bool) (fmIdxes : List Nat)
    (dynShapeSet : Bool) (configShape : List Bool) (mem : MemMgr) (dev : Device) {j : JobV3_1}
    (hasSubgraphs : graph.subgraphCnt ≠ 0)
    (ok : (JobV3_1.create graph fmMemRegionDefault fmIdxes dynShapeSet configShape mem dev).init =
      .ok (j, .success)) :
    ∃ j', j.destroy = .ok j' ∧ j'.dev.groupLog =
      dev.groupLog ++ [.get j.startGroupId graph.subgraphCnt, .put j.startGroupId graph.subgraphCnt] := by
  obtain ⟨loaded, -, created⟩ := JobV3_1.init_loaded ok
  obtain ⟨j', destroyed, returned⟩ := loaded.destroy_ok
  refine ⟨j', destroyed, ?_⟩
  rw [returned, Device.putStartGroupId, Device.getStartGroupId_log hasSubgraphs created.granted, created.sgCnt,
    List.append_assoc]
  rfl

theorem init_destroy_returns_group_ids_e3 :
    e3Graph.subgraphCnt ≠ 0 ∧
      ∃ j, (JobV3_1.create e3Graph true [] false [] .fresh (.once 0)).init = .ok (j, .success) ∧
        ∃ j', j.destroy = .ok j' ∧ j'.dev.groupLog =
          [.get j.startGroupId e3Graph.subgraphCnt, .put j.startGroupId e3Graph.subgraphCnt] :=
  ⟨by decide, _, rfl, init_destroy_returns_group_ids e3Graph true [] false [] .fresh (.once 0) (by decide) rfl⟩

end AipuUmd
