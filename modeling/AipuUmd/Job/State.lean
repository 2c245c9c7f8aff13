import AipuUmd.Job.Graph

/-!
# The state of a v3.1 job

A `JobV3_1` holds the buffers it obtained for one graph: the job-wide buffers
(`m_model_global_param`, `m_rodata`, `m_descriptor`, `m_tcbs`, `m_pprint`), the two
buffers of the centralized path (`m_top_priv_buf`, `m_top_reuse_buf`), one
`SubGraphTask` per subgraph in `m_sg_job` and one `BSSBuffer` per BSS in
`m_bss_buffer_vec`.

The memory manager and the device are not in the repository. They are modelled by
what the job can observe of them. An allocation succeeds or fails as a given pattern
says, and a success hands out a fresh allocation id. A free releases a live allocation,
and any other owning free is recorded as a misuse. `get_start_group_id` answers from
a given list, and every get and put of group ids is logged.
-/

namespace AipuUmd

/-- A `BufferDesc` as the job holds it: an allocation of the memory manager, a
sub-view of allocation `base` made by `BufferDesc::init` at an offset, or an address
the caller supplied (`specify_io_buffer`). `size` is the descriptor's `size`. -/
inductive BufferDesc
  | owned (id size : Nat)
  | view (base offset size : Nat)
  | external (pa size : Nat)
deriving DecidableEq, Repr

/-- The descriptor's `size` field. -/
def BufferDesc.size : BufferDesc → Nat
  | .owned _ size | .view _ _ size | .external _ size => size

/-- The memory manager: the fate of the coming allocations (past the end of
`outcomes` every allocation succeeds), the next allocation id, the live allocations,
and every owning free of something that is not a live allocation. -/
structure MemMgr where
  outcomes : List Bool
  nextId : Nat
  live : List Nat
  misuse : List BufferDesc
deriving DecidableEq, Repr

/-- A memory manager on which every allocation succeeds. -/
def MemMgr.fresh : MemMgr := ⟨[], 0, [], []⟩

/-- A memory manager with no allocation yet, whose allocations succeed or fail as
`outcomes` says. -/
def MemMgr.withOutcomes (outcomes : List Bool) : MemMgr := ⟨outcomes, 0, [], []⟩

/-- `MemoryBase::malloc` (and `GM_V3_1::gm_malloc`, which also allocates). -/
def MemMgr.malloc (m : MemMgr) (size : Nat) : MemMgr × Option BufferDesc :=
  match m.outcomes with
  | false :: rest => ({ m with outcomes := rest }, none)
  | _ => ({ m with outcomes := m.outcomes.tail, nextId := m.nextId + 1, live := m.live ++ [m.nextId] },
      some (.owned m.nextId size))

/-- An allocation either fails, consuming its outcome, or hands out the next id. -/
theorem MemMgr.malloc_cases (m : MemMgr) (size : Nat) :
    m.malloc size = ({ m with outcomes := m.outcomes.tail }, none) ∨
      m.malloc size = ({ m with
        outcomes := m.outcomes.tail, nextId := m.nextId + 1, live := m.live ++ [m.nextId] },
        some (.owned m.nextId size)) := by
  obtain ⟨outcomes, nextId, live, misuse⟩ := m
  unfold MemMgr.malloc
  match outcomes with
  | false :: _ => exact .inl rfl
  | [] | true :: _ => exact .inr rfl

/-- `MemoryBase::free` and `free_phybuffer`: a live allocation is released; anything
else handed to an owning free is a misuse. A null pointer is ignored. -/
def MemMgr.free (m : MemMgr) : Option BufferDesc → MemMgr
  | none => m
  | some (.owned id size) =>
    if id ∈ m.live then { m with live := m.live.erase id }
    else { m with misuse := m.misuse ++ [.owned id size] }
  | some d => { m with misuse := m.misuse ++ [d] }

/-- A call of the device's group-id allocator. -/
inductive GroupEvent
  | get (start count : Nat)
  | put (start count : Nat)
deriving DecidableEq, Repr

/-- The device as a job uses it: the answers of `get_start_group_id` in order (`none`
a failure; past the end every call fails), and the log of group-id calls. -/
structure Device where
  groupAnswers : List (Option Nat)
  groupLog : List GroupEvent
deriving DecidableEq, Repr

/-- `get_start_group_id(count, start)`: `none` on failure, else the value `start` holds
afterwards. As in `SimulatorV3_1`, a request for no group succeeds and leaves `start`
as it was. -/
def Device.getStartGroupId (d : Device) (count start : Nat) : Device × Option Nat :=
  if count = 0 then (d, some start)
  else match d.groupAnswers with
    | some first :: rest => ({ groupAnswers := rest, groupLog := d.groupLog ++ [.get first count] }, some first)
    | _ => ({ d with groupAnswers := d.groupAnswers.tail }, none)

/-- A device whose group-id allocator grants one request, starting at `start`. -/
def Device.once (start : Nat) : Device := ⟨[some start], []⟩

/-- `put_start_group_id(start, count)`. -/
def Device.putStartGroupId (d : Device) (start count : Nat) : Device :=
  { d with groupLog := d.groupLog ++ [.put start count] }

/-- A `JobIOBuffer` of `m_segmmus` as `setup_segmmu` reads it: the 32-bit SegMMU id that
says where its address goes, and its physical address `pa`. The structure's definition
is not in the repository. -/
structure JobIOBuffer where
  id : Nat
  pa : Nat
deriving DecidableEq, Repr

/-- A `Task`: its stack and private-data buffer. -/
structure Task where
  stack : Option BufferDesc
  privateData : Option BufferDesc
deriving DecidableEq, Repr

/-- A `SubGraphTask`: the subgraph's private buffers and its tasks. -/
structure SubGraphTask where
  id : Nat
  reusePrivBuffers : List BufferDesc
  tasks : List Task
deriving DecidableEq, Repr

instance : Inhabited SubGraphTask := ⟨⟨0, [], []⟩⟩

/-- `SubGraphTask::reset(id, bss)`: a fresh task record for subgraph `id`. -/
def SubGraphTask.reset (id : Nat) : SubGraphTask := ⟨id, [], []⟩

/-- A `BSSBuffer`: its reuse buffers, whether it points at the BSS's weight table, and
the reuse indices `specify_io_buffer` replaced (`dma_buf_idx`). -/
structure BssBuffer where
  reuses : List BufferDesc
  weights : Bool
  dmaBufIdx : List Nat
deriving DecidableEq, Repr

/-- The default `BSSBuffer`. -/
def BssBuffer.empty : BssBuffer := ⟨[], false, []⟩

instance : Inhabited BssBuffer := ⟨BssBuffer.empty⟩

/-- Outcomes of the model compare by `decide`. -/
instance exceptDecidableEq {ε α : Type} [DecidableEq ε] [DecidableEq α] :
    DecidableEq (Except ε α)
  | .error a, .error b => decidable_of_iff (a = b) ⟨congrArg _, Except.error.inj⟩
  | .ok a, .ok b => decidable_of_iff (a = b) ⟨congrArg _, Except.ok.inj⟩
  | .error _, .ok _ => isFalse nofun
  | .ok _, .error _ => isFalse nofun

/-- A computation of the model succeeds after a bind exactly when both parts do. -/
theorem bind_eq_ok {ε α β : Type} {x : Except ε α} {f : α → Except ε β} {b : β} :
    x >>= f = .ok b ↔ ∃ a, x = .ok a ∧ f a = .ok b := by
  cases x <;> simp [bind, Except.bind]

/-- Out-of-range reads and null dereferences of the modelled code, where C++ has
undefined behaviour and the model stops. -/
inductive Fault
  | bssBufferVec (idx : Nat)
  | reuses (idx : Nat)
  | tasks (sg : Nat)
  | precursors (sg : Nat)
  | nullWeights
  | nullRodata
  | nullStack (sg : Nat)
  | nullPrivateData (sg : Nat)
  | nullPrint (sg : Nat)
  | graphBss (idx : Nat)
  | nullGlobalParam
  | segmmuConfig (idx : Nat)
  | outShapeData (idx : Nat)
  | tcbArrayIndex (idx : Nat)
  | nullTopPrivBuf (sg : Nat)
deriving DecidableEq, Repr

/-- The `aipu_status_t` values the modelled code returns. -/
inductive Status
  | success
  | bufAllocFail
  | notConfigShape
  | setShapeFailed
  | allocGroupId
  | invalidGbin
  | invalidTensorType
  | invalidTensorId
  | dmabufSharedIo
  | invalidOp
  | ioctlFail
  | unmatchOutShape
  | zeroTensorSize
  | invalidPartitionId
  | jobException
deriving DecidableEq, Repr

/-- The job's fields the buffer code reads and writes. `fmMemRegionDefault` is
`m_fm_mem_region == AIPU_MEM_REGION_DEFAULT`; `configShape` says, per input of the
dynamic-shape configuration, whether its shape is configured, and `dynShapeSet` is
`is_set_dyn_shape_true()`; `inputs` and `outputs` are the reuse indices of
`m_inputs` and `m_outputs`. `m_sg_cnt` is the job's `get_subgraph_cnt()`. `coreCnt` is the core count
`get_core_count` reports for the job's partition, which `init` keeps in `m_core_cnt`, and
`segmmus` is `m_segmmus`, the SegMMU-tagged I/O buffers of `create_io_buffers`; neither
body is in the repository, so both are given with the job. -/
structure JobV3_1 where
  graph : Graph
  fmMemRegionDefault : Bool
  fmIdxes : List Nat
  dynShapeSet : Bool
  configShape : List Bool
  sgCnt : Nat
  taskPerSg : Nat
  startGroupId : Nat
  modelGlobalParam : Option BufferDesc
  rodata : Option BufferDesc
  descriptor : Option BufferDesc
  tcbs : Option BufferDesc
  pprint : Option BufferDesc
  topPrivBuf : Option BufferDesc
  topReuseBuf : Option BufferDesc
  topPrivBufFreed : Bool
  optimizedReuseAlloc : Bool
  sgJob : List SubGraphTask
  bssBufferVec : List BssBuffer
  sgtAllocated : List Nat
  inputs : List IoTensorDesc
  outputs : List IoTensorDesc
  mem : MemMgr
  dev : Device
  coreCnt : Nat
  segmmus : List JobIOBuffer
deriving DecidableEq, Repr

/-- The constructor `JobV3_1::JobV3_1`: no buffers yet. -/
def JobV3_1.create (graph : Graph) (fmMemRegionDefault : Bool) (fmIdxes : List Nat)
    (dynShapeSet : Bool) (configShape : List Bool) (mem : MemMgr) (dev : Device) : JobV3_1 where
  graph := graph
  fmMemRegionDefault := fmMemRegionDefault
  fmIdxes := fmIdxes
  dynShapeSet := dynShapeSet
  configShape := configShape
  sgCnt := 0
  taskPerSg := 0
  startGroupId := 0
  modelGlobalParam := none
  rodata := none
  descriptor := none
  tcbs := none
  pprint := none
  topPrivBuf := none
  topReuseBuf := none
  topPrivBufFreed := false
  optimizedReuseAlloc := false
  sgJob := []
  bssBufferVec := []
  sgtAllocated := []
  inputs := []
  outputs := []
  mem := mem
  dev := dev
  coreCnt := 1
  segmmus := []

/-- `get_graph().get_subgraph(i)`. -/
def JobV3_1.subgraph (j : JobV3_1) (i : Nat) : Subgraph := j.graph.subgraph i

/-- `m_sg_job[i]`, read within range. -/
def JobV3_1.sgTask (j : JobV3_1) (i : Nat) : SubGraphTask := j.sgJob.getD i default

/-- Change `m_sg_job[i]`. -/
def JobV3_1.modifySgTask (j : JobV3_1) (i : Nat) (f : SubGraphTask → SubGraphTask) : JobV3_1 :=
  { j with sgJob := j.sgJob.modify f i }

end AipuUmd
