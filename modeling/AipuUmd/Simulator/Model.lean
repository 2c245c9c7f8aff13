import Mathlib.Data.List.AList
import Mathlib.Algebra.Order.Ring.Nat

/-!
# The v3.1 simulator back end

A shallow embedding of `SimulatorV3_1` (`simulator_v3_1.cpp`): the submit queue
`m_buffer_queue`, the commit map `m_commit_map` keyed by grid id, the done set
`m_done_set`, the busy flag `m_cant_add_job_flag`, and the process-wide completion
record (`m_sim_done_grid_set`, `simv3_1_has_grid_done`) that `sim_cb_handler` feeds.

The simulator engine `m_aipu` is the black box of the spec. It logs register writes,
starts the chain of the job whose `JobDesc` was dispatched, and raises
`AIPU_EV_GRID_END` with the grid id of a running chain when that chain ends. The
`TSM_STATUS` reading of each call and the pool id that `get_cmdpool_id` hands out
are inputs of the operations: every reading and every pick is allowed.
-/

namespace AipuUmd

/-- What the simulator reads of a `JobV3_1` through the `JobDesc` it is handed. -/
structure Job where
  /-- `jobdesc.jobbase`: the job's identity. -/
  id : Nat
  /-- `get_grid_id()`, drawn by `JobV3_1::init` from the 16-bit grid counter. -/
  gridId : UInt16
  partId : Nat
  qos : Nat
  subgraphCnt : Nat
  /-- `jobdesc.tcb_head`, the address of the job's GRID_INIT TCB. -/
  tcbHead : Nat
  tcbNumber : Nat
deriving DecidableEq, Repr

/-- Constants of the simulator headers that are not part of the sources:
`POOL_PCP`, `POOL_SCP` and `AIPU_JOB_QOS_SLOW`. -/
structure SimConsts where
  poolPcp : Nat
  poolScp : Nat
  qosSlow : Nat

/-- `SimulatorV3_1::is_cmdpool_full`: the `TSM_STATUS` bit of the pool the job
would use. -/
def isCmdpoolFull (k : SimConsts) (qos partId partitionMode clusterIdx regVal : Nat) : Bool :=
  let second := decide (partitionMode = k.poolScp ∧ partId = 1)
  if qos = k.qosSlow then
    regVal.testBit (if second then clusterIdx + 4 else clusterIdx)
  else
    regVal.testBit (if second then clusterIdx + 12 else clusterIdx + 8)

/-- `if (part_id > POOL_SCP) part_id = POOL_PCP;` -/
def clampPart (k : SimConsts) (partId : Nat) : Nat :=
  if k.poolScp < partId then k.poolPcp else partId

/-- The command of a `TSM_CMD_SCHED_CTRL` write. -/
inductive PoolCmd
  | create
  | dispatch
deriving DecidableEq, Repr

/-- One `m_aipu->write_register` call. A `TSM_CMD_SCHED_CTRL` value is a field word
or-ed with a command bit, which the spec places outside the partition, pool and
QoS fields, so the pair records the value exactly. -/
inductive RegWrite
  | schedAddrHi (value : Nat)
  | schedAddrLo (value : Nat)
  | tcbNumber (value : Nat)
  | schedCtrl (fields : Nat) (cmd : PoolCmd)
deriving DecidableEq, Repr

/-- `(part_id << 19) | (cmd_pool_id << 16) | (qos << 8)`. -/
def ctrlFields (partId cmdPoolId qos : Nat) : Nat :=
  partId <<< 19 ||| cmdPoolId <<< 16 ||| qos <<< 8

/-- `get_high_32`. -/
def high32 (x : Nat) : Nat := x >>> 32

/-- `get_low_32`. -/
def low32 (x : Nat) : Nat := x % 2 ^ 32

/-- The simulator engine `m_aipu`, as the driver sees it. -/
structure Aipu where
  writes : List RegWrite
  /-- Chains started by a dispatch whose GRID_END has not been raised yet. -/
  running : List Job
  /-- Every chain started, in start order. -/
  started : List Job

/-- A dispatch: the register writes, after which the engine runs `job`'s chain. -/
def Aipu.dispatch (a : Aipu) (ws : List RegWrite) (job : Job) : Aipu :=
  ⟨a.writes ++ ws, a.running ++ [job], a.started ++ [job]⟩

/-- The engine finishes `job`'s chain. -/
def Aipu.endChain (a : Aipu) (job : Job) : Aipu :=
  { a with running := a.running.erase job }

/-- The state of one `SimulatorV3_1` with the process-wide completion record. -/
structure Sim where
  bufferQueue : List Job
  commitMap : AList (fun _ : UInt16 => Job)
  doneSet : List Job
  simDoneGridSet : List UInt16
  cantAddJobFlag : Bool
  /-- `simv3_1_has_grid_done`. -/
  hasGridDone : Bool
  partitionMode : Nat
  /-- Each job's `m_bind_cmdpool_id`; `none` is the constructor's `0xffffffff`. -/
  bindCmdpoolId : Job → Option Nat
  aipu : Aipu

/-- The simulator after `has_target`, before any job is scheduled. -/
def Sim.init (partitionMode : Nat) : Sim :=
  ⟨[], ∅, [], [], false, false, partitionMode, fun _ => none, ⟨[], [], []⟩⟩

/-- The number of entries of `m_commit_map`. -/
def Sim.commitSize (s : Sim) : Nat := s.commitMap.keys.length

/-- `cmd_pool_id = job->m_bind_cmdpool_id = get_cmdpool_id(..)` on the job's first
dispatch attempt, the bound pool afterwards. `get_cmdpool_id` is not part of the
sources: `pick` is the pool it returns. -/
def bindCmdpool (bound : Job → Option Nat) (job : Job) (pick : Nat) :
    Nat × (Job → Option Nat) :=
  match bound job with
  | none => (pick, Function.update bound job (some pick))
  | some pool => (pool, bound)

/-- `m_buffer_queue.push(job)`, then `front()` and `pop()`. -/
def pushPop (queue : List Job) (job : Job) : Job × List Job :=
  match queue with
  | [] => (job, [])
  | head :: rest => (head, rest ++ [job])

/-- The common part of a dispatch by `schedule` or `fill_commit_queue`: the engine
receives the writes and runs `job`'s chain, `m_commit_map[key] = job`, the queue is
left with `rest`, and the simulator is busy. -/
def Sim.dispatch (s : Sim) (job : Job) (rest : List Job) (key : UInt16)
    (ws : List RegWrite) : Sim :=
  { s with
    cantAddJobFlag := true
    bufferQueue := rest
    commitMap := s.commitMap.insert key job
    aipu := s.aipu.dispatch ws job }

section Operations

variable (k : SimConsts)

/-- The writes of a dispatch by `schedule`: address and count of the popped job, the
create command with the fields computed for the scheduled job, and a bare
`DISPATCH_CMD_POOL`. -/
def scheduleWrites (head : Job) (fields : Nat) : List RegWrite :=
  [.schedAddrHi (high32 head.tcbHead), .schedAddrLo (low32 head.tcbHead),
    .tcbNumber head.tcbNumber, .schedCtrl fields .create, .schedCtrl 0 .dispatch]

/-- `SimulatorV3_1::schedule`, the part under `m_lock`: push the job, and when the
simulator is not busy and the job's pool is not full, pop the queue head, record it
in `m_commit_map` under the scheduled job's `grid_id`, and dispatch it. -/
def Sim.schedule (s : Sim) (job : Job) (regVal pick : Nat) : Sim :=
  let partId := clampPart k job.partId
  let pool := bindCmdpool s.bindCmdpoolId job pick
  if s.cantAddJobFlag || isCmdpoolFull k job.qos partId s.partitionMode 0 regVal then
    { s with bindCmdpoolId := pool.2, bufferQueue := s.bufferQueue ++ [job] }
  else
    let popped := pushPop s.bufferQueue job
    Sim.dispatch { s with bindCmdpoolId := pool.2 } popped.1 popped.2 job.gridId
      (scheduleWrites popped.1 (ctrlFields partId pool.1 job.qos))

/-- The writes of a dispatch by `fill_commit_queue`, all computed from the
dispatched job. -/
def fillWrites (job : Job) (fields : Nat) : List RegWrite :=
  [.schedAddrHi (high32 job.tcbHead), .schedAddrLo (low32 job.tcbHead),
    .tcbNumber (low32 job.tcbNumber), .schedCtrl fields .dispatch]

/-- The `for (i < max)` loop of `fill_commit_queue`: dispatch the queue head under its
own grid id while its pool is not full. -/
def Sim.fillLoop (regVal pick : Nat) : Nat → Sim → Sim
  | 0, s => s
  | n + 1, s =>
    match s.bufferQueue with
    | [] => s
    | job :: rest =>
      let partId := clampPart k job.partId
      let pool := bindCmdpool s.bindCmdpoolId job pick
      if isCmdpoolFull k job.qos partId s.partitionMode 0 regVal then
        { s with bindCmdpoolId := pool.2 }
      else
        Sim.fillLoop regVal pick n
          (Sim.dispatch { s with bindCmdpoolId := pool.2 } job rest job.gridId
            (fillWrites job (ctrlFields partId pool.1 job.qos)))

/-- `max_limit` of `fill_commit_queue`. -/
def fillMaxLimit : Nat := 1

/-- `SimulatorV3_1::fill_commit_queue`. -/
def Sim.fillCommitQueue (s : Sim) (regVal pick : Nat) : Sim :=
  if 16 ≤ s.commitSize then s
  else s.fillLoop k regVal pick (min s.bufferQueue.length fillMaxLimit)

/-- One pass of `for (done_gridid : m_sim_done_grid_set)` in `poll_status`: a
finished grid that is committed moves its job to `m_done_set`. -/
def drainGrid (acc : Sim × List UInt16) (g : UInt16) : Sim × List UInt16 :=
  match acc.1.commitMap.lookup g with
  | some job =>
    ({ acc.1 with
        doneSet := acc.1.doneSet.insert job
        commitMap := acc.1.commitMap.erase g
        cantAddJobFlag := false }, acc.2 ++ [g])
  | none => acc

/-- The drain loop of `poll_status`, then `m_sim_done_grid_set.erase` of every
drained id. -/
def Sim.drainGrids (s : Sim) : Sim :=
  let acc : Sim × List UInt16 := s.simDoneGridSet.foldl drainGrid (s, [])
  { acc.1 with simDoneGridSet := acc.1.simDoneGridSet.removeAll acc.2 }

/-- The block of `poll_status` under `m_lock`: drain the finished grids, then refill
from `m_buffer_queue`. -/
def Sim.drainDoneGrids (s : Sim) (regVal pick : Nat) : Sim :=
  let s := s.drainGrids
  if 0 < s.bufferQueue.length then s.fillCommitQueue k regVal pick else s

end Operations

/-- The events of the simulator engine. -/
inductive SimEvent
  | gridEnd
  | other (code : Nat)

/-- `SimulatorV3_1::sim_cb_handler`. -/
def Sim.simCbHandler (s : Sim) (event : SimEvent) (value : UInt16) : Sim :=
  match event with
  | .gridEnd => { s with simDoneGridSet := s.simDoneGridSet.insert value, hasGridDone := true }
  | .other _ => s

/-- The engine ends `job`'s chain and raises `AIPU_EV_GRID_END` with its grid id. -/
def Sim.gridEnd (s : Sim) (job : Job) : Sim :=
  { s with aipu := s.aipu.endChain job }.simCbHandler .gridEnd job.gridId

/-! ## `poll_status` -/

/-- Where one `poll_status` call is in its `while (1)` loop. -/
inductive PollPc
  /-- The `m_done_set` test under `m_lock`. -/
  | checkDone
  /-- Taking `m_poll_mtex` and testing `m_commit_map.count(grid_id)`. -/
  | checkCommit
  /-- Blocked in `simv3_1_cv.wait(lck, has_some_grid_done)`. -/
  | waiting
  /-- Holding `m_poll_mtex`, about to drain under `m_lock`. -/
  | drain
  /-- Returned `AIPU_LL_STATUS_SUCCESS` with the job DONE. -/
  | finished
deriving DecidableEq, Repr

/-- One `poll_status` call in flight. -/
structure Poller where
  job : Job
  pc : PollPc
deriving DecidableEq, Repr

/-- The entry of `poll_status`: a job without subgraphs is DONE at once. -/
def Poller.start (job : Job) : Poller :=
  ⟨job, if job.subgraphCnt = 0 then .finished else .checkDone⟩

/-- The call holds `m_poll_mtex` from a successful commit test to the end of the
drain. -/
def Poller.holdsPollMtex (p : Poller) : Bool :=
  p.pc = .waiting || p.pc = .drain

/-- One atomic step of a `poll_status` call, `none` while it is blocked. -/
def Sim.pollStep (k : SimConsts) (s : Sim) (p : Poller) (mtexFree : Bool)
    (regVal pick : Nat) : Option (Sim × PollPc) :=
  match p.pc with
  | .checkDone =>
    if p.job ∈ s.doneSet then some ({ s with doneSet := s.doneSet.erase p.job }, .finished)
    else some (s, .checkCommit)
  | .checkCommit =>
    if !mtexFree then none
    else if p.job.gridId ∈ s.commitMap then
      some (s, if p.job.gridId ∈ s.simDoneGridSet then .drain else .waiting)
    else some (s, .checkDone)
  | .waiting => if s.hasGridDone then some ({ s with hasGridDone := false }, .drain) else none
  | .drain => some (s.drainDoneGrids k regVal pick, .checkDone)
  | .finished => none

end AipuUmd
