import AipuUmd.Job.Tcb
import AipuUmd.Job.Segmmu

/-!
# Loading, unwinding and destroying a job

`alloc_load_job_buffers` allocates the job-wide buffers, the subgraph buffers and the
per-task data, and on any failure unwinds through `free_sg_buffers` and
`free_job_buffers`. `init` sets the job's parameters, takes a range of group ids and
loads the buffers; `destroy` is `free_job_buffers`, which also gives the group ids
back. `specify_io_buffer` replaces the reuse buffer of an I/O tensor with a buffer the
caller supplies.

The bodies of `create_io_buffers`, `setup_rodata`, `setup_remap` and
`put_start_group_id` are not in the repository. `create_io_buffers` is modelled as
copying BSS 0's input and output tensors, the others as succeeding; what the job's
own code dereferences around them is kept. The centralized path can fault (a view of a
null `tot_priv`), and so can `setup_segmmu`, so the loading steps from step 4 on return
`Except Fault`.
-/

namespace AipuUmd

/-- An allocation into `buf`, which is left as it was on failure. -/
def MemMgr.mallocInto (m : MemMgr) (size : Nat) (buf : Option BufferDesc) :
    MemMgr × Option BufferDesc × Status :=
  match m.malloc size with
  | (m, none) => (m, buf, .bufAllocFail)
  | (m, some b) => (m, some b, .success)

/-- `free(&buf)` under the job's guard `buf && buf->size != 0`: the pointer is cleared
when the buffer is freed. -/
def MemMgr.freeNonEmpty (m : MemMgr) (buf : Option BufferDesc) : MemMgr × Option BufferDesc :=
  if BufferDesc.nonEmpty buf then (m.free buf, none) else (m, buf)

/-! ## Unwinding -/

/-- The task loop of `free_sg_buffers` for `m_sgt_allocated` entry `idx`: the stack and
private data of its first `m_task_per_sg` tasks are freed and cleared. -/
def JobV3_1.freeTasks (j : JobV3_1) (idx : Nat) : Except Fault JobV3_1 :=
  let tasks := (j.sgTask idx).tasks
  if tasks.length < j.taskPerSg then .error (.tasks idx)
  else
    let mem := (tasks.take j.taskPerSg).foldl (fun m t => (m.free t.stack).free t.privateData) j.mem
    pure { j.modifySgTask idx (fun t => { t with
      tasks := List.replicate j.taskPerSg ⟨none, none⟩ ++ t.tasks.drop j.taskPerSg }) with mem := mem }

/-- `JobV3_1::free_sg_buffers(m_sg_job[i])`. `tot_priv` is freed (and
`m_top_priv_buf_freed` set) when it holds memory; after that private buffers are only
dropped, before it they are freed one by one. Then the tasks of every allocated
subgraph are freed and `m_sgt_allocated` is cleared. -/
def JobV3_1.freeSgBuffers (j : JobV3_1) (i : Nat) : Except Fault JobV3_1 := do
  let j := if BufferDesc.nonEmpty j.topPrivBuf then
      { j with mem := j.mem.free j.topPrivBuf, topPrivBuf := none, topPrivBufFreed := true } else j
  let privs := (j.sgTask i).reusePrivBuffers
  let mem := if j.topPrivBufFreed then j.mem else privs.foldl (fun m b => m.free (some b)) j.mem
  let j := { j.modifySgTask i (fun t => { t with reusePrivBuffers := [] }) with mem := mem }
  let j ← j.sgtAllocated.foldlM JobV3_1.freeTasks j
  pure { j with sgtAllocated := [] }

/-- The reuse buffers of a `BSSBuffer` by position: those `owning` picks are freed, the
others only dropped (`free_bufferdesc`). -/
def freeReuses (owning : Nat → Bool) (mem : MemMgr) (k : Nat) : List BufferDesc → MemMgr
  | [] => mem
  | b :: rest => freeReuses owning (if owning k then mem.free (some b) else mem) (k + 1) rest

/-- The BSS loop body of `free_job_buffers` for `m_bss_buffer_vec[bssIdx]`. While
`tot_reuse` holds memory it is freed and, of the reuse buffers, only those whose
position GM claims; otherwise every reuse buffer not replaced by `specify_io_buffer`
is freed. -/
def JobV3_1.freeBss (j : JobV3_1) (bssIdx : Nat) : Except Fault JobV3_1 :=
  match j.bssBufferVec.get? bssIdx with
  | none => .error (.bssBufferVec bssIdx)
  | some buf =>
    let j := if BufferDesc.nonEmpty j.topReuseBuf then
        { j with mem := freeReuses (fun k => k ∈ j.graph.gmReuse) (j.mem.free j.topReuseBuf) 0 buf.reuses,
                 topReuseBuf := none }
      else { j with mem := freeReuses (fun k => k ∉ buf.dmaBufIdx) j.mem 0 buf.reuses }
    pure { j with bssBufferVec := j.bssBufferVec.set bssIdx { buf with reuses := [], weights := false } }

/-- `JobV3_1::free_job_buffers`: the job-wide buffers, every subgraph's buffers, every
BSS's reuse buffers, and last the group ids. -/
def JobV3_1.freeJobBuffers (j : JobV3_1) : Except Fault JobV3_1 := do
  let (mem, modelGlobalParam) := j.mem.freeNonEmpty j.modelGlobalParam
  let (mem, rodata) := mem.freeNonEmpty j.rodata
  let (mem, descriptor) := mem.freeNonEmpty j.descriptor
  let (mem, tcbs) := mem.freeNonEmpty j.tcbs
  let (mem, pprint) := mem.freeNonEmpty j.pprint
  let j := { j with mem, modelGlobalParam, rodata, descriptor, tcbs, pprint }
  let j ← (List.range j.sgJob.length).foldlM
    (fun j i => do pure ((← j.freeSgBuffers i).modifySgTask i fun _ => SubGraphTask.reset i)) j
  let j ← (List.range j.graph.bss.length).foldlM JobV3_1.freeBss j
  pure { j with sgJob := [], bssBufferVec := [], inputs := [], outputs := [],
                dev := j.dev.putStartGroupId j.startGroupId j.sgCnt }

/-- The `finish` path of `alloc_load_job_buffers`: on a failure every subgraph's
buffers and then the job's buffers are freed, and the status is returned. -/
def JobV3_1.unwind (j : JobV3_1) (st : Status) : Except Fault (JobV3_1 × Status) :=
  if st = .success then pure (j, st)
  else do
    let j ← (List.range j.sgJob.length).foldlM JobV3_1.freeSgBuffers j
    pure (← j.freeJobBuffers, st)

/-- `JobV3_1::destroy`. -/
def JobV3_1.destroy (j : JobV3_1) : Except Fault JobV3_1 := j.freeJobBuffers

/-! ## Loading -/

/-- Run `next` after a step that succeeded; otherwise stop with the step's status. -/
def onSuccess (r : JobV3_1 × Status) (next : JobV3_1 → JobV3_1 × Status) : JobV3_1 × Status :=
  if r.2 = .success then next r.1 else r

/-- Step 0: the model global parameter of a dynamic-shape graph whose shapes are set,
and the check that every configured input has its shape. -/
def JobV3_1.allocModelParam (j : JobV3_1) : JobV3_1 × Status :=
  if j.graph.dynamicShape ∧ j.dynShapeSet ∧ 0 < j.configShape.length then
    let (mem, modelGlobalParam, st) := j.mem.mallocInto j.graph.globalParamSize j.modelGlobalParam
    let j := { j with mem, modelGlobalParam }
    if st ≠ .success then (j, st)
    else if j.configShape.all id then (j, .success) else (j, .notConfigShape)
  else (j, .success)

/-- Steps 1 to 3: rodata and the descriptor when the graph has them, and the TCBs. -/
def JobV3_1.allocJobWide (j : JobV3_1) : JobV3_1 × Status :=
  onSuccess (if j.graph.rodataSize = 0 then (j, .success) else
      let (mem, rodata, st) := j.mem.mallocInto j.graph.rodataSize j.rodata
      ({ j with mem, rodata }, st)) fun j =>
  onSuccess (if j.graph.descSize = 0 then (j, .success) else
      let (mem, descriptor, st) := j.mem.mallocInto j.graph.descSize j.descriptor
      ({ j with mem, descriptor }, st)) fun j =>
  let (mem, tcbs, st) := j.mem.mallocInto ((1 + j.sgCnt * (j.taskPerSg + 1)) * tcbSize) j.tcbs
  ({ j with mem, tcbs }, st)

/-- Step 4: the centralized path, and the scatter path when it returns -1. -/
def JobV3_1.allocSubgraphs (j : JobV3_1) : Except Fault (JobV3_1 × Status) := do
  let (j, r) ← j.allocSubgraphBuffersOptimized
  if r = -1 then pure j.allocSubgraphBuffers
  else if r < -1 then pure (j, .bufAllocFail) else pure (j, .success)

/-- Steps 0 to 5 of `alloc_load_job_buffers`, up to the first failure. -/
def JobV3_1.allocBuffers (j : JobV3_1) : Except Fault (JobV3_1 × Status) :=
  let r := onSuccess j.allocModelParam JobV3_1.allocJobWide
  if r.2 ≠ .success then pure r
  else do
    let s ← r.1.allocSubgraphs
    pure (onSuccess s JobV3_1.initPerTaskData)

theorem JobV3_1.allocSubgraphs_ok {j : JobV3_1} {r : JobV3_1 × Status} :
    j.allocSubgraphs = .ok r ↔ ∃ p, j.allocSubgraphBuffersOptimized = .ok p ∧
      (if p.2 = -1 then p.1.allocSubgraphBuffers
        else if p.2 < -1 then (p.1, .bufAllocFail) else (p.1, .success)) = r := by
  unfold JobV3_1.allocSubgraphs
  rw [bind_eq_ok]
  refine exists_congr fun ⟨k, n⟩ => and_congr_right fun _ => ?_
  dsimp only
  split_ifs <;> exact ⟨Except.ok.inj, congrArg _⟩

theorem JobV3_1.allocBuffers_ok {j : JobV3_1} {r : JobV3_1 × Status} :
    j.allocBuffers = .ok r ↔
      let q := onSuccess j.allocModelParam JobV3_1.allocJobWide
      (q.2 ≠ .success ∧ q = r) ∨
        (q.2 = .success ∧ ∃ s, q.1.allocSubgraphs = .ok s ∧ onSuccess s JobV3_1.initPerTaskData = r) := by
  unfold JobV3_1.allocBuffers
  dsimp only
  by_cases failed : (onSuccess j.allocModelParam JobV3_1.allocJobWide).2 = .success
  · rw [if_neg (not_not.mpr failed), bind_eq_ok]
    simp only [failed, ne_eq, not_true_eq_false, false_and, true_and, false_or]
    exact exists_congr fun s => and_congr_right fun _ => ⟨Except.ok.inj, congrArg _⟩
  · rw [if_pos failed]
    simp only [failed, ne_eq, not_false_eq_true, true_and, false_and, or_false]
    exact ⟨Except.ok.inj, congrArg _⟩

/-- `create_io_buffers(get_bss(0).io, ...)`, as far as the job's own code reads it. -/
def JobV3_1.createIoBuffers (j : JobV3_1) : JobV3_1 :=
  { j with inputs := j.graph.bss0.io.inputs, outputs := j.graph.bss0.io.outputs }

/-- Step 9, `setup_segmmu(m_sg_job[0])` (which does not read its argument), and the
unwind when it fails. -/
def JobV3_1.segmmuStep (j : JobV3_1) : Except Fault (JobV3_1 × Status) := do
  let (_, st) ← setupSegmmu j.graph.segmmuNum j.graph.segmmuRecords j.coreCnt j.segmmus
  if st ≠ .success then j.unwind st else pure (j, .success)

/-- Step 9 either faults or succeeds with the job as it was. -/
theorem JobV3_1.segmmuStep_ok {j : JobV3_1} {r : JobV3_1 × Status} (ok : j.segmmuStep = .ok r) :
    r = (j, .success) := by
  unfold JobV3_1.segmmuStep at ok
  obtain ⟨⟨secs, st⟩, setup, rest⟩ := bind_eq_ok.mp ok
  have succeeds : st = .success := setupSegmmu_status setup
  subst succeeds
  exact (Except.ok.inj rest).symm

/-- `JobV3_1::alloc_load_job_buffers`. After the allocations it reads
`m_bss_buffer_vec[0]`, and for a job with subgraphs dereferences its weights and
`m_rodata` (steps 7 and 8) and sets up the SegMMU records (step 9). -/
def JobV3_1.allocLoadJobBuffers (j : JobV3_1) : Except Fault (JobV3_1 × Status) := do
  let (j, st) ← j.allocBuffers
  if st ≠ .success then j.unwind st
  else match j.bssBufferVec.head? with
    | none => .error (.bssBufferVec 0)
    | some bss0 =>
      let j := j.createIoBuffers
      if j.sgCnt = 0 then pure (j, .success)
      else if !bss0.weights then .error .nullWeights
      else if j.rodata.isNone then .error .nullRodata
      else j.segmmuStep

/-! ## `init` -/

/-- The pointers `setup_task_tcb` dereferences for the tasks of subgraph `i`, task by
task (`JobV3_1.taskPointers`). -/
def JobV3_1.taskTcbReads (j : JobV3_1) (i : Nat) : Except Fault Unit :=
  (List.range j.taskPerSg).forM fun t => discard (j.taskPointers i t)

/-- `JobV3_1::setup_tcb_chain`: per subgraph the group's dependencies and its task
TCBs, then the rodata address written for the debugger. -/
def JobV3_1.setupTcbChain (j : JobV3_1) : List Nat → Except Fault Status
  | [] => if j.rodata.isNone then .error .nullRodata else pure .success
  | i :: rest => do
    let (_, st) ← (j.subgraph i).configTcbDeps i j.startGroupId
    if st ≠ .success then return st
    j.taskTcbReads i
    j.setupTcbChain rest

/-- `set_job_params(get_subgraph_cnt(), 4, ...)`. -/
def JobV3_1.setJobParams (j : JobV3_1) : JobV3_1 :=
  { j with sgCnt := j.graph.subgraphCnt, taskPerSg := 4 }

/-- The rest of `init` once the group ids are taken: the buffers and, for a job with
subgraphs, the TCB chain. -/
def JobV3_1.loadAndChain (j : JobV3_1) : Except Fault (JobV3_1 × Status) := do
  let r ← j.allocLoadJobBuffers
  if r.2 ≠ .success ∨ r.1.sgCnt = 0 then return r
  return (r.1, ← r.1.setupTcbChain (List.range r.1.graph.subgraphCnt))

/-- `JobV3_1::init`: the dynamic-shape check, the job's parameters, the group ids and
then `loadAndChain`. The grid id comes from the simulator, whose `get_grid_id` always
succeeds. -/
def JobV3_1.init (j : JobV3_1) : Except Fault (JobV3_1 × Status) :=
  if j.graph.dynamicShape ∧ !j.dynShapeSet then pure (j, .setShapeFailed)
  else
    let j := j.setJobParams
    match j.dev.getStartGroupId j.sgCnt j.startGroupId with
    | (dev, none) => pure ({ j with dev }, .allocGroupId)
    | (dev, some start) => { j with dev, startGroupId := start }.loadAndChain

/-! ## `specify_io_buffer` -/

/-- `AIPU_TENSOR_TYPE_INPUT`, `AIPU_TENSOR_TYPE_OUTPUT` or another type. -/
inductive TensorType
  | input
  | output
  | other
deriving DecidableEq, Repr

/-- The sharing cases of `aipu_shared_tensor_info_t`. -/
inductive ShareCase
  | inOneProcess
  | customed
  | dmabuf
  | attachDmabuf
  | other
deriving DecidableEq, Repr

/-- `aipu_shared_tensor_info_t`, with the answer of the dma-buf ioctl (`none` when
it fails) in `dmaBufPa`. -/
structure SharedTensorInfo where
  type : TensorType
  tensorIdx : Nat
  shareCase : ShareCase
  pa : Nat
  dmaBufPa : Option Nat
  offsetInDmabuf : Nat
deriving DecidableEq, Repr

/-- The address the reuse buffer is re-pointed to, or the failing status. -/
def SharedTensorInfo.target (info : SharedTensorInfo) : Except Status Nat :=
  match info.shareCase with
  | .inOneProcess | .customed => .ok info.pa
  | .dmabuf | .attachDmabuf =>
    match info.dmaBufPa with
    | some pa => .ok (pa + info.offsetInDmabuf)
    | none => .error .ioctlFail
  | .other => .error .invalidOp

/-- `JobV3_1::specify_io_buffer`, with `freeSt` the status `free_phybuffer` returns. The
tensor's `ref_section_iter` indexes `m_bss_buffer_vec[0].reuses`; the index joins
`dma_buf_idx`, the buffer's memory is given back with `free_phybuffer` unless the
centralized path made it, and the descriptor is re-pointed to the caller's address. A
refused free frees nothing and ends the call with its status. -/
def JobV3_1.specifyIoBuffer (j : JobV3_1) (info : SharedTensorInfo) (freeSt : Status) :
    Except Fault (JobV3_1 × Status) :=
  let pair : Option (List IoTensorDesc × List IoTensorDesc) := match info.type with
    | .input => some (j.inputs, j.graph.bss0.io.outputs)
    | .output => some (j.outputs, j.graph.bss0.io.inputs)
    | .other => none
  match pair with
  | none => pure (j, .invalidTensorId)
  | some (tensors, others) =>
    match tensors.get? info.tensorIdx with
    | none => pure (j, .invalidTensorId)
    | some tensor =>
      let k := tensor.refSectionIter
      if others.any (·.refSectionIter = k) then pure (j, .dmabufSharedIo)
      else match j.bssBufferVec.head? with
        | none => .error (.bssBufferVec 0)
        | some bss0 =>
          match bss0.reuses.get? k with
          | none => .error (.reuses k)
          | some desc =>
            let bss0 := { bss0 with dmaBufIdx := bss0.dmaBufIdx.insert k }
            let j := { j with bssBufferVec := j.bssBufferVec.set 0 bss0 }
            if ¬j.optimizedReuseAlloc ∧ freeSt ≠ .success then pure (j, freeSt)
            else
              let mem := if j.optimizedReuseAlloc then j.mem else j.mem.free (some desc)
              match info.target with
              | .error st => pure ({ j with mem }, st)
              | .ok pa =>
                let bss0 := { bss0 with reuses := bss0.reuses.set k (.external pa desc.size) }
                let j := { j with mem, bssBufferVec := j.bssBufferVec.set 0 bss0 }
                if !bss0.weights then .error .nullWeights
                else if j.rodata.isNone then .error .nullRodata
                else pure (j, .success)

end AipuUmd
