import AipuUmd.Job.State

/-!
# Subgraph buffers and per-task data

`alloc_subgraph_buffers_optimized` (the centralized path) makes one allocation,
`tot_priv`, for the private sections of all subgraphs and one, `tot_reuse`, for the
reuse sections of BSS 0, and hands out page-aligned views of them. A PRE_ALL subgraph
starts the private views from offset 0 again. Its sizes and offsets are `uint32_t` and
wrap modulo `2^32`; `tot_priv` is only allocated when `max_private_size` is not 0, and a
view of it is made through `m_top_priv_buf` all the same. When the memory region is not
the default one, or either allocation fails, it returns -1 and `alloc_subgraph_buffers`
(the scatter path) allocates every section on its own.

`init_per_task_data` gives every task of a subgraph a stack and, when the subgraph has
private data, a private-data buffer. From a PRE_ALL subgraph on, subgraphs take over
the tasks of the subgraphs that allocated (`m_sgt_allocated`), in order, until these
run out.

`ALIGN_PAGE` and `AIPU_PAGE_SIZE` are not in the repository; they are modelled as the
usual round-up to 4 KiB pages.
-/

namespace AipuUmd

/-- `AIPU_PAGE_SIZE`. -/
def aipuPageSize : Nat := 4096

/-- `ALIGN_PAGE`. -/
def alignPage (size : Nat) : Nat := (size + aipuPageSize - 1) / aipuPageSize * aipuPageSize

/-- The allocation id of a buffer the job made views of. -/
def BufferDesc.baseId : Option BufferDesc → Nat
  | some (.owned id _) => id
  | _ => 0

/-- A null-checked `size > 0`, as the job tests its top buffers. -/
def BufferDesc.nonEmpty (buf : Option BufferDesc) : Bool :=
  buf.any fun b => decide (0 < b.size)

/-! ## The scatter path -/

/-- The section loops of `alloc_subgraph_buffers`: one allocation for each non-empty
section, in section order, up to the first failure. Private sections, reuse sections
in GM and reuse sections in a memory region all take this shape. -/
def allocSections (mem : MemMgr) : List SectionDesc → MemMgr × List BufferDesc × Status
  | [] => (mem, [], .success)
  | sec :: rest =>
    if sec.size = 0 then allocSections mem rest
    else match mem.malloc sec.size with
      | (mem, none) => (mem, [], .bufAllocFail)
      | (mem, some buf) =>
        let (mem, bufs, st) := allocSections mem rest
        (mem, buf :: bufs, st)

/-- The subgraph loop of `alloc_subgraph_buffers`: `sg_task` is reset for each
subgraph, given its private buffers and pushed to `m_sg_job`; a failed allocation
pushes the partial record and stops. The last `sg_task` is returned with the status. -/
def JobV3_1.allocSgPrivate (j : JobV3_1) (sgTask : SubGraphTask) :
    List Nat → JobV3_1 × SubGraphTask × Status
  | [] => (j, sgTask, .success)
  | i :: rest =>
    let (mem, bufs, st) := allocSections j.mem (j.subgraph i).privateBuffers
    let sgTask : SubGraphTask := ⟨i, bufs, []⟩
    let j := { j with mem := mem, sgJob := j.sgJob ++ [sgTask] }
    if st = .success then j.allocSgPrivate sgTask rest else (j, sgTask, st)

/-- The BSS loop of `alloc_subgraph_buffers`, guarded by `sg_task.id == 0` where
`lastId` is the id of the last `sg_task`: when the guard holds, each BSS gets the
reuse buffers of BSS 0 and a `BSSBuffer` is pushed; otherwise nothing is pushed. -/
def JobV3_1.allocBssScatter (j : JobV3_1) (lastId : Nat) : List Nat → JobV3_1 × Status
  | [] => (j, .success)
  | _ :: rest =>
    if lastId = 0 then
      let (mem, reuses, st) := allocSections j.mem j.graph.bss0.reuseSections
      let j := { j with mem := mem, bssBufferVec := j.bssBufferVec ++ [⟨reuses, st = .success, []⟩] }
      if st = .success then j.allocBssScatter lastId rest else (j, st)
    else j.allocBssScatter lastId rest

/-- The printf buffer both paths allocate when subgraph 0 has a printf FIFO, one page
per subgraph. -/
def JobV3_1.allocPrintf (j : JobV3_1) : JobV3_1 × Status :=
  if 0 < j.sgCnt ∧ 0 < (j.subgraph 0).printfifoSize then
    match j.mem.malloc (j.sgCnt * aipuPageSize) with
    | (mem, none) => ({ j with mem := mem }, .bufAllocFail)
    | (mem, some buf) => ({ j with mem := mem, pprint := some buf }, .success)
  else (j, .success)

/-- `JobV3_1::alloc_subgraph_buffers`. -/
def JobV3_1.allocSubgraphBuffers (j : JobV3_1) : JobV3_1 × Status :=
  let r := j.allocSgPrivate (SubGraphTask.reset 0) (List.range j.sgCnt)
  if r.2.2 ≠ .success then (r.1, r.2.2)
  else
    let b := r.1.allocBssScatter r.2.1.id (List.range r.1.graph.bss.length)
    if b.2 ≠ .success then b else b.1.allocPrintf

/-! ## The centralized path -/

/-- `max_private_size`: `private_size` restarts at each PRE_ALL subgraph and adds the
page-aligned size of every private section, modulo `2^32` as each `+=` is; the result is
the largest value it has after a subgraph. -/
def maxPrivateSize32 (size maxSize : Nat) : List Subgraph → Nat
  | [] => maxSize
  | sg :: rest =>
    let size := ((if sg.precursorCnt = subgDependPreall then 0 else size) +
      (sg.privateBuffers.map fun sec => alignPage sec.size).sum) % 2 ^ 32
    maxPrivateSize32 size (max maxSize size) rest

/-- Where the centralized path puts reuse section `k` of BSS 0. -/
inductive ReuseKind
  | gm
  | fm
  | central
deriving DecidableEq, Repr

/-- GM first, then `m_fm_idxes`, then a view of `tot_reuse`. -/
def JobV3_1.reuseKind (j : JobV3_1) (k : Nat) : ReuseKind :=
  if k ∈ j.graph.gmReuse then .gm else if k ∈ j.fmIdxes then .fm else .central

/-- `reuse_buf_total_size`: the page-aligned sizes of the reuse sections of BSS 0 that
are neither GM nor `m_fm_idxes` sections, modulo `2^32`. -/
def JobV3_1.reuseTotalSize32 (j : JobV3_1) (k total : Nat) : List SectionDesc → Nat
  | [] => total
  | sec :: rest =>
    j.reuseTotalSize32 (k + 1)
      (if j.reuseKind k = .central then (total + alignPage sec.size) % 2 ^ 32 else total) rest

/-- The private sections of one subgraph as views of allocation `base` from `priv_offset`
on, a `uint32_t`: each non-empty section takes the next page-aligned slot. The views
come with the offset after them. -/
def privateViews32 (base offset : Nat) : List SectionDesc → List BufferDesc × Nat
  | [] => ([], offset)
  | sec :: rest =>
    if sec.size = 0 then privateViews32 base offset rest
    else
      let (views, next) := privateViews32 base ((offset + alignPage sec.size) % 2 ^ 32) rest
      (.view base offset (alignPage sec.size) :: views, next)

/-- The subgraph loop of the centralized path: each subgraph's private views of `tot_priv`
follow the previous subgraph's, except that a PRE_ALL subgraph starts at offset 0. A view
reads `m_top_priv_buf`, which is null when `max_private_size` is 0. -/
def JobV3_1.viewSgPrivate (j : JobV3_1) (top : Option BufferDesc) (offset : Nat) :
    List Nat → Except Fault JobV3_1
  | [] => pure j
  | i :: rest =>
    let sg := j.subgraph i
    let (views, offset) := privateViews32 (BufferDesc.baseId top)
      (if sg.precursorCnt = subgDependPreall then 0 else offset) sg.privateBuffers
    if top.isNone && !views.isEmpty then .error (.nullTopPrivBuf i)
    else { j with sgJob := j.sgJob ++ [SubGraphTask.mk i views []] }.viewSgPrivate top offset rest

/-- The reuse loop of the centralized path for BSS 0: a GM or `m_fm_idxes` section
gets an allocation of its own (its failure gives -3 or -4), any other non-empty
section a view of allocation `base` at the running `uint32_t` offset. -/
def JobV3_1.reuseViews (j : JobV3_1) (base : Nat) (mem : MemMgr) (k offset : Nat) :
    List SectionDesc → MemMgr × List BufferDesc × Int
  | [] => (mem, [], 0)
  | sec :: rest =>
    if sec.size = 0 then j.reuseViews base mem (k + 1) offset rest
    else if j.reuseKind k = .central then
      let (mem, bufs, r) :=
        j.reuseViews base mem (k + 1) ((offset + alignPage sec.size) % 2 ^ 32) rest
      (mem, .view base offset (alignPage sec.size) :: bufs, r)
    else match mem.malloc sec.size with
      | (mem, none) => (mem, [], if j.reuseKind k = .gm then -3 else -4)
      | (mem, some buf) =>
        let (mem, bufs, r) := j.reuseViews base mem (k + 1) offset rest
        (mem, buf :: bufs, r)

/-- The BSS loop of the centralized path: BSS 0's entry gets the reuse buffers, every
other entry is empty. -/
def JobV3_1.allocBssCentral (j : JobV3_1) (base : Nat) : List Nat → JobV3_1 × Int
  | [] => (j, 0)
  | bssId :: rest =>
    if bssId = 0 then
      let (mem, reuses, r) := j.reuseViews base j.mem 0 0 j.graph.bss0.reuseSections
      let j := { j with mem := mem, bssBufferVec := j.bssBufferVec ++ [⟨reuses, r = 0, []⟩] }
      if r = 0 then j.allocBssCentral base rest else (j, r)
    else { j with bssBufferVec := j.bssBufferVec ++ [BssBuffer.empty] }.allocBssCentral base rest

/-- `opt_alloc_fail`: the top buffers are freed when they hold memory. -/
def JobV3_1.optAllocFail (j : JobV3_1) : JobV3_1 :=
  let j := if BufferDesc.nonEmpty j.topPrivBuf then
      { j with mem := j.mem.free j.topPrivBuf, topPrivBuf := none } else j
  if BufferDesc.nonEmpty j.topReuseBuf then
    { j with mem := j.mem.free j.topReuseBuf, topReuseBuf := none } else j

/-- The `tot_priv` allocation, made when some private section is non-empty. -/
def JobV3_1.allocTopPriv (j : JobV3_1) : JobV3_1 × Bool :=
  let size := maxPrivateSize32 0 0 ((List.range j.sgCnt).map j.subgraph)
  if size = 0 then (j, true)
  else match j.mem.malloc size with
    | (mem, none) => ({ j with mem := mem }, false)
    | (mem, some buf) => ({ j with mem := mem, topPrivBuf := some buf }, true)

/-- The `tot_reuse` allocation, made whatever its size. -/
def JobV3_1.allocTopReuse (j : JobV3_1) : JobV3_1 × Bool :=
  match j.mem.malloc (j.reuseTotalSize32 0 0 j.graph.bss0.reuseSections) with
  | (mem, none) => ({ j with mem := mem }, false)
  | (mem, some buf) => ({ j with mem := mem, topReuseBuf := some buf }, true)

/-- The rest of the centralized path once the subgraph records are there: the BSS
buffers and the printf buffer. -/
def JobV3_1.allocCentralRest (j : JobV3_1) : JobV3_1 × Int :=
  let b := j.allocBssCentral (BufferDesc.baseId j.topReuseBuf) (List.range j.graph.bss.length)
  if b.2 ≠ 0 then b
  else if b.1.allocPrintf.2 ≠ .success then (b.1.allocPrintf.1, -6)
  else ({ b.1.allocPrintf.1 with optimizedReuseAlloc := true }, 0)

/-- The centralized path once the top buffers are there: the private views, then the
rest. -/
def JobV3_1.allocViews (j : JobV3_1) : Except Fault (JobV3_1 × Int) := do
  let j ← j.viewSgPrivate j.topPrivBuf 0 (List.range j.sgCnt)
  pure j.allocCentralRest

/-- `JobV3_1::alloc_subgraph_buffers_optimized`: 0 on success, -1 to fall back to the
scatter path, -3, -4 or -6 on a failure after the top buffers. -/
def JobV3_1.allocSubgraphBuffersOptimized (j : JobV3_1) : Except Fault (JobV3_1 × Int) :=
  if !j.fmMemRegionDefault then pure (j.optAllocFail, -1)
  else if !j.allocTopPriv.2 then pure (j.allocTopPriv.1.optAllocFail, -1)
  else if !j.allocTopPriv.1.allocTopReuse.2 then
    pure (j.allocTopPriv.1.allocTopReuse.1.optAllocFail, -1)
  else j.allocTopPriv.1.allocTopReuse.1.allocViews

/-! ## Per-task data -/

/-- The task loop of a subgraph that gets per-task data of its own: for each of the
tasks a stack and, when the subgraph has private data, a private-data buffer. A
failure stops the loop; a stack whose private-data allocation failed is not kept. -/
def allocTasks (stackSize dpSize : Nat) (mem : MemMgr) : Nat → MemMgr × List Task × Status
  | 0 => (mem, [], .success)
  | n + 1 =>
    match mem.malloc stackSize with
    | (mem, none) => (mem, [], .bufAllocFail)
    | (mem, some stack) =>
      if dpSize = 0 then
        let (mem, tasks, st) := allocTasks stackSize dpSize mem n
        (mem, ⟨some stack, none⟩ :: tasks, st)
      else match mem.malloc dpSize with
        | (mem, none) => (mem, [], .bufAllocFail)
        | (mem, some dp) =>
          let (mem, tasks, st) := allocTasks stackSize dpSize mem n
          (mem, ⟨some stack, some dp⟩ :: tasks, st)

/-- `m_sg_job[i]` takes over the first `m_task_per_sg` tasks of subgraph `src`. -/
def JobV3_1.shareTasks (j : JobV3_1) (i src : Nat) : JobV3_1 :=
  j.modifySgTask i fun t => { t with tasks := t.tasks ++ (j.sgTask src).tasks.take j.taskPerSg }

/-- `m_sg_job[i]` gets per-task data of its own and, when all of it could be had, joins
`m_sgt_allocated`. -/
def JobV3_1.ownTasks (j : JobV3_1) (i : Nat) : JobV3_1 × Status :=
  let r := allocTasks j.graph.bss0.stackSize (j.subgraph i).privateDataSize j.mem j.taskPerSg
  let j := { j.modifySgTask i (fun t => { t with tasks := t.tasks ++ r.2.1 }) with mem := r.1 }
  if r.2.2 = .success then ({ j with sgtAllocated := j.sgtAllocated ++ [i] }, .success) else (j, r.2.2)

/-- The subgraph loop of `init_per_task_data`, carrying `sg_idx` and `dep_all_flag`.
A subgraph after the first either takes over the tasks of `m_sgt_allocated[sg_idx]`
(when a PRE_ALL subgraph has set the flag and allocated subgraphs remain) or gets its
own. -/
def JobV3_1.initTasks (j : JobV3_1) (sgIdx : Nat) (depAll : Bool) : List Nat → JobV3_1 × Status
  | [] => (j, .success)
  | i :: rest =>
    let preall : Bool := i ≠ 0 ∧ (j.subgraph i).precursorCnt = subgDependPreall
    let sgIdx := if preall then 0 else sgIdx
    let depAll := preall || depAll
    if i ≠ 0 ∧ depAll ∧ sgIdx < j.sgtAllocated.length then
      (j.shareTasks i (j.sgtAllocated.getD sgIdx 0)).initTasks (sgIdx + 1) depAll rest
    else
      let r := j.ownTasks i
      if r.2 = .success then r.1.initTasks sgIdx (if i ≠ 0 then false else depAll) rest else r

/-- `JobV3_1::init_per_task_data`. -/
def JobV3_1.initPerTaskData (j : JobV3_1) : JobV3_1 × Status :=
  j.initTasks 0 false (List.range j.sgCnt)

end AipuUmd
