import AipuUmd.Job.Chain

/-!
# Scheduling a job again

`init` writes the TCB chain into the job's TCB buffer and reads it back into
`m_backup_tcb`. `JobV3_1::schedule` hands the device the buffer's first
`m_tot_tcb_cnt` slots; from its second call on it first writes the backup over them,
since the device may have changed them while it ran the chain. `bind_core` and
`debugger_run` go through `schedule`.

The buffer is modelled by slot, one `Tcb` or `none` per slot, and the device's writes
between calls are events of the run with any contents. `dispatched` is a ghost log of
what each call of `m_dev->schedule` was handed.

* `TcbState.Primed`: the invariant. The backup holds the chain, every dispatch so far
  handed the device the chain, and until the backup is first used nothing was
  dispatched and the buffer still holds the chain.
* `SchedState.run_primed`: every run keeps it, whatever the device writes once it has
  been handed the chain, whatever the device answers and whatever
  `validate_schedule_status` refuses.
* `JobV3_1.schedule_dispatches_init_chain`: after a successful `init` of a graph with
  subgraphs, every dispatch of every such run hands the device the `1 + S * 5` records
  `setup_tcb_chain` wrote.
-/

namespace AipuUmd

/-! ## The TCB buffer by slot -/

/-- `setup_tcb_chain`'s `m_mem->write` of each record at its slot, in order. -/
def writeTcbs (ws : List (Nat × Tcb)) (buf : Nat → Option Tcb) : Nat → Option Tcb :=
  ws.foldl (fun buf w => Function.update buf w.1 (some w.2)) buf

/-- `m_mem->read(m_init_tcb.pa, dst, n * sizeof(tcb_t))`: the first `n` slots. -/
def readTcbs (buf : Nat → Option Tcb) (n : Nat) : List (Option Tcb) :=
  (List.range n).map buf

/-- `m_mem->write(m_init_tcb.pa, m_backup_tcb.get(), …)`: the backup over the first
slots, the rest of the buffer as it was. -/
def restoreTcbs (backup : List (Option Tcb)) (buf : Nat → Option Tcb) : Nat → Option Tcb :=
  fun k => backup.getD k (buf k)

/-- Writes at slots other than `k` leave slot `k` as it was. -/
theorem writeTcbs_of_not_mem {k : Nat} {ws : List (Nat × Tcb)} (fresh : k ∉ ws.map Prod.fst)
    (buf : Nat → Option Tcb) : writeTcbs ws buf k = buf k := by
  induction ws generalizing buf with
  | nil => rfl
  | cons w rest ih =>
    rw [List.map_cons, List.mem_cons, not_or] at fresh
    rw [writeTcbs, List.foldl_cons, ← writeTcbs, ih fresh.2, Function.update_noteq fresh.1]

/-- Writes at slots `a, a + 1, …` read back, from `a` on, as the records written. -/
theorem writeTcbs_range' (ws : List (Nat × Tcb)) :
    ∀ (a n : Nat) (buf : Nat → Option Tcb), ws.map Prod.fst = List.range' a n →
      (List.range' a n).map (writeTcbs ws buf) = ws.map fun w => some w.2 := by
  induction ws with
  | nil => intro a n buf slots; rw [← slots]; rfl
  | cons w rest ih =>
    intro a n buf slots
    obtain ⟨m, rfl⟩ : ∃ m, n = m + 1 := Nat.exists_eq_succ_of_ne_zero fun zero => by
      subst zero; cases slots
    rw [List.range'_succ, List.map_cons, List.cons.injEq] at slots
    obtain ⟨rfl, rest_slots⟩ := slots
    have fresh : w.1 ∉ rest.map Prod.fst := by
      rw [rest_slots, List.mem_range']
      omega
    rw [List.range'_succ, List.map_cons, List.map_cons, writeTcbs, List.foldl_cons, ← writeTcbs,
      ih (w.1 + 1) m _ rest_slots, writeTcbs_of_not_mem fresh, Function.update_same]

/-- Writes at slots `0, …, n - 1` read back as the records written. -/
theorem readTcbs_writeTcbs {ws : List (Nat × Tcb)} {n : Nat}
    (slots : ws.map Prod.fst = List.range n) (buf : Nat → Option Tcb) :
    readTcbs (writeTcbs ws buf) n = ws.map fun w => some w.2 := by
  rw [List.range_eq_range'] at slots
  rw [readTcbs, List.range_eq_range', writeTcbs_range' ws 0 n buf slots]

/-- A restored buffer reads back as the backup. -/
theorem readTcbs_restoreTcbs (backup : List (Option Tcb)) (buf : Nat → Option Tcb) :
    readTcbs (restoreTcbs backup buf) backup.length = backup := by
  refine List.ext_getElem (by rw [readTcbs, List.length_map, List.length_range]) fun k _ lt => ?_
  simp only [readTcbs, List.getElem_map, List.getElem_range, restoreTcbs, List.getD_eq_getElem _ _ lt]

/-! ## `schedule`, `bind_core` and `debugger_run` -/

/-- Modelled from the spec: `aipu_job_status_t` is not in the repository. Its states are
the lifecycle the spec gives a job. -/
inductive JobStatus
  | noStatus
  | init
  | sched
  | bind
  | done
  | exception
deriving DecidableEq, Repr

/-- Modelled from the spec: `validate_schedule_status` is not in the repository. A job
is scheduled after `init`, from BIND by `debugger_run`, and again once it ended, never
while it is SCHED. Every result below holds for any validation. -/
def validateScheduleStatus (st : JobStatus) : Status :=
  if st = .sched ∨ st = .noStatus then .invalidOp else .success

/-- What the calls read from the job and never change: `get_subgraph_cnt()`,
`m_tot_tcb_cnt`, the size of the graph's text section and `validate_schedule_status`. -/
structure SchedCfg where
  sgCnt : Nat
  totTcbCnt : Nat
  textSize : Nat
  validate : JobStatus → Status

/-- `m_tot_tcb_cnt = 1 + m_sg_cnt * (m_task_per_sg + 1)`, as `set_job_params` sets it. -/
def JobV3_1.totTcbCnt (j : JobV3_1) : Nat := 1 + j.sgCnt * (j.taskPerSg + 1)

/-- The configuration of a job whose text section has `textSize` bytes. -/
def JobV3_1.schedCfg (j : JobV3_1) (textSize : Nat) (validate : JobStatus → Status) :
    SchedCfg :=
  ⟨j.sgCnt, j.totTcbCnt, textSize, validate⟩

/-- The TCB buffer and what the job keeps of it: `m_backup_tcb`, which `set_job_params`
always allocates, `m_backup_tcb_used`, and the ghost log `dispatched`. -/
structure TcbState where
  buf : Nat → Option Tcb
  backup : List (Option Tcb)
  backupUsed : Bool
  dispatched : List (List (Option Tcb))

/-- The job's fields the scheduling calls read and write. -/
structure SchedState where
  tcb : TcbState
  status : JobStatus
  isDeferRun : Bool
  doTrigger : Bool
  partitionId : Nat

/-- The restore of `schedule`: the backup goes over the buffer once it has been used,
and is marked used. -/
def TcbState.prime (t : TcbState) : TcbState :=
  { t with buf := if t.backupUsed then restoreTcbs t.backup t.buf else t.buf, backupUsed := true }

/-- `m_dev->schedule(desc)` with `desc.tcb_head = m_init_tcb.pa` and
`desc.tcb_number = m_tot_tcb_cnt`: the device is handed the first `n` slots. -/
def TcbState.dispatch (t : TcbState) (n : Nat) : TcbState :=
  { t with dispatched := t.dispatched ++ [readTcbs t.buf n] }

/-- `JobV3_1::schedule`, with `devSt` the status `m_dev->schedule` returns. Without a
text section nothing is handed to the device. -/
def SchedState.schedule (cfg : SchedCfg) (devSt : Status) (s : SchedState) :
    SchedState × Status :=
  if cfg.validate s.status ≠ .success then (s, cfg.validate s.status)
  else if cfg.sgCnt = 0 then (s, .success)
  else
    let tcb := s.tcb.prime
    let (tcb, ret) := if cfg.textSize = 0 then (tcb, Status.success)
      else (tcb.dispatch cfg.totTcbCnt, devSt)
    if ret ≠ .success then ({ s with tcb }, ret)
    else ({ s with tcb, status := if s.isDeferRun ∧ !s.doTrigger then .bind else .sched },
      .success)

/-- `JobV3_1::bind_core`, with `partitionCnt` what `m_dev->get_partition_count` gives. -/
def SchedState.bindCore (cfg : SchedCfg) (partitionId : Nat) (partitionCnt : Except Status Nat)
    (devSt : Status) (s : SchedState) : SchedState × Status :=
  match partitionCnt with
  | .error st => (s, st)
  | .ok cnt =>
    if cnt ≤ partitionId then (s, .invalidPartitionId)
    else if cfg.validate s.status ≠ .success then (s, cfg.validate s.status)
    else { s with isDeferRun := true, doTrigger := false, partitionId }.schedule cfg devSt

/-- `JobV3_1::debugger_run`, with `polled` the status and job status
`get_status_blocking` returns. -/
def SchedState.debuggerRun (cfg : SchedCfg) (devSt : Status) (polled : Status × JobStatus)
    (s : SchedState) : SchedState × Status :=
  if s.status ≠ .bind then (s, .invalidOp)
  else
    let (s, ret) := { s with isDeferRun := true, doTrigger := true }.schedule cfg devSt
    if ret ≠ .success then (s, ret)
    else (s, if polled.1 = .success ∧ polled.2 ≠ .done then .jobException else polled.1)

/-- What can happen to a job after `init`: one of its three calls, the end of a run
setting its status, or the device writing its TCB buffer. -/
inductive SchedEvent
  | schedule (devSt : Status)
  | bindCore (partitionId : Nat) (partitionCnt : Except Status Nat) (devSt : Status)
  | debuggerRun (devSt : Status) (polled : Status × JobStatus)
  | jobEnded (st : JobStatus)
  | deviceWrite (buf : Nat → Option Tcb)

/-- Whether an event is a write of the device. -/
def SchedEvent.isDeviceWrite : SchedEvent → Bool
  | .deviceWrite _ => true
  | _ => false

/-- One event. -/
def SchedState.step (cfg : SchedCfg) (s : SchedState) : SchedEvent → SchedState
  | .schedule devSt => (s.schedule cfg devSt).1
  | .bindCore partitionId partitionCnt devSt => (s.bindCore cfg partitionId partitionCnt devSt).1
  | .debuggerRun devSt polled => (s.debuggerRun cfg devSt polled).1
  | .jobEnded st => { s with status := st }
  | .deviceWrite buf => { s with tcb := { s.tcb with buf } }

/-- The events one after the other. -/
def SchedState.run (cfg : SchedCfg) : SchedState → List SchedEvent → SchedState
  | s, [] => s
  | s, e :: es => (s.step cfg e).run cfg es

/-- The device writes the TCB buffer only once it has been handed the chain. -/
def SchedState.writesAfterDispatch (cfg : SchedCfg) : SchedState → List SchedEvent → Bool
  | _, [] => true
  | s, e :: es =>
    (!e.isDeviceWrite || !s.tcb.dispatched.isEmpty) && (s.step cfg e).writesAfterDispatch cfg es

/-- The end of `init` on a job with subgraphs: `setup_tcb_chain` writes `ws` over
whatever the buffer held and sets the status INIT, then the first `n` slots are read into
`m_backup_tcb`. The log starts empty. -/
def SchedState.afterInit (ws : List (Nat × Tcb)) (n : Nat) (s : SchedState) : SchedState :=
  let buf := writeTcbs ws s.tcb.buf
  { s with tcb := ⟨buf, readTcbs buf n, s.tcb.backupUsed, []⟩, status := .init }

/-! ## The invariant -/

/-- The TCB state of a job primed with `chain`. -/
structure TcbState.Primed (chain : List (Option Tcb)) (t : TcbState) : Prop where
  backup : t.backup = chain
  unused : t.backupUsed = false → readTcbs t.buf chain.length = chain ∧ t.dispatched = []
  dispatched : ∀ snap ∈ t.dispatched, snap = chain

section Primed

variable {chain : List (Option Tcb)} {t : TcbState}

/-- The restore leaves the chain in the buffer. -/
theorem TcbState.Primed.prime (p : t.Primed chain) :
    t.prime.Primed chain ∧ readTcbs t.prime.buf chain.length = chain := by
  refine ⟨⟨p.backup, nofun, p.dispatched⟩, ?_⟩
  cases used : t.backupUsed
  · simpa only [TcbState.prime, used] using (p.unused used).1
  · simp only [TcbState.prime, used, if_true, p.backup, readTcbs_restoreTcbs]

/-- Handing the device a buffer that holds the chain keeps the invariant. -/
theorem TcbState.Primed.dispatch (p : t.Primed chain) (used : t.backupUsed = true)
    (ready : readTcbs t.buf chain.length = chain) : (t.dispatch chain.length).Primed chain := by
  refine ⟨p.backup, fun unused => absurd (used.symm.trans unused) Bool.noConfusion, ?_⟩
  rw [TcbState.dispatch, List.forall_mem_append, List.forall_mem_singleton]
  exact ⟨p.dispatched, ready⟩

/-- Once something was dispatched, a device write keeps the invariant. -/
theorem TcbState.Primed.write (p : t.Primed chain) (handed : t.dispatched ≠ [])
    (buf : Nat → Option Tcb) : { t with buf }.Primed chain := by
  exact ⟨p.backup, fun unused => absurd (p.unused unused).2 handed, p.dispatched⟩

end Primed

section Calls

variable {cfg : SchedCfg} {chain : List (Option Tcb)} {s : SchedState}

/-- `schedule` keeps the invariant: a call that goes on restores the chain before it
hands anything to the device. -/
theorem SchedState.schedule_primed (len : cfg.totTcbCnt = chain.length)
    (p : s.tcb.Primed chain) (devSt : Status) : (s.schedule cfg devSt).1.tcb.Primed chain := by
  obtain ⟨primed, ready⟩ := p.prime
  have dispatched := primed.dispatch rfl ready
  rw [← len] at dispatched
  unfold SchedState.schedule
  by_cases refused : cfg.validate s.status ≠ .success
  · rw [if_pos refused]
    exact p
  rw [if_neg refused]
  by_cases empty : cfg.sgCnt = 0
  · rw [if_pos empty]
    exact p
  rw [if_neg empty]
  by_cases noText : cfg.textSize = 0 <;> simp only [noText, if_true, if_false] <;> split <;>
    assumption

/-- `bind_core` keeps the invariant. -/
theorem SchedState.bindCore_primed (len : cfg.totTcbCnt = chain.length)
    (p : s.tcb.Primed chain) (partitionId : Nat) (partitionCnt : Except Status Nat)
    (devSt : Status) : (s.bindCore cfg partitionId partitionCnt devSt).1.tcb.Primed chain := by
  unfold SchedState.bindCore
  rcases partitionCnt with st | cnt
  · exact p
  dsimp only
  split
  · exact p
  split
  · exact p
  · exact SchedState.schedule_primed
      (s := { s with isDeferRun := true, doTrigger := false, partitionId }) len p devSt

/-- `debugger_run` keeps the invariant. -/
theorem SchedState.debuggerRun_primed (len : cfg.totTcbCnt = chain.length)
    (p : s.tcb.Primed chain) (devSt : Status) (polled : Status × JobStatus) :
    (s.debuggerRun cfg devSt polled).1.tcb.Primed chain := by
  have scheduled := SchedState.schedule_primed (s := { s with isDeferRun := true, doTrigger := true })
    len p devSt
  unfold SchedState.debuggerRun
  split
  · exact p
  · rcases sched : SchedState.schedule cfg devSt { s with isDeferRun := true, doTrigger := true }
      with ⟨s', ret⟩
    rw [sched] at scheduled
    dsimp only
    split <;> exact scheduled

/-- One event keeps the invariant, a device write when something was dispatched. -/
theorem SchedState.step_primed (len : cfg.totTcbCnt = chain.length) (p : s.tcb.Primed chain)
    (e : SchedEvent) (handed : e.isDeviceWrite = true → s.tcb.dispatched ≠ []) :
    (s.step cfg e).tcb.Primed chain := by
  cases e with
  | schedule devSt => exact SchedState.schedule_primed len p devSt
  | bindCore partitionId partitionCnt devSt =>
    exact SchedState.bindCore_primed len p partitionId partitionCnt devSt
  | debuggerRun devSt polled => exact SchedState.debuggerRun_primed len p devSt polled
  | jobEnded st => exact p
  | deviceWrite buf => exact p.write (handed rfl) buf

/-- Every run keeps the invariant. -/
theorem SchedState.run_primed (len : cfg.totTcbCnt = chain.length) :
    ∀ (evs : List SchedEvent) (s : SchedState), s.tcb.Primed chain →
      s.writesAfterDispatch cfg evs = true → (s.run cfg evs).tcb.Primed chain
  | [], _, p, _ => p
  | e :: es, s, p, adm => by
    rw [SchedState.writesAfterDispatch, Bool.and_eq_true] at adm
    have handed : e.isDeviceWrite = true → s.tcb.dispatched ≠ [] := fun write nil => by
      simp [write, nil] at adm
    exact SchedState.run_primed len es _ (SchedState.step_primed len p e handed) adm.2

/-- `init` primes the job with the records it wrote. -/
theorem SchedState.afterInit_primed {ws : List (Nat × Tcb)} {n : Nat}
    (slots : ws.map Prod.fst = List.range n) (s : SchedState) :
    (s.afterInit ws n).tcb.Primed (ws.map fun w => some w.2) := by
  have read := readTcbs_writeTcbs slots s.tcb.buf
  have len : (ws.map fun w => some w.2).length = n := by
    rw [List.length_map, ← List.length_map ws Prod.fst, slots, List.length_range]
  exact ⟨read, fun _ => ⟨len ▸ read, rfl⟩, nofun⟩

end Calls

/-! ## Every dispatch after `init` -/

/-- After a successful `init`, the chain's records sit at slots `0, …, S * 5`, and every
call of `m_dev->schedule` in any run of `schedule`,
`bind_core` and `debugger_run` calls, with the device writing the buffer at will once it
has been handed the chain, hands it exactly those records. -/
theorem JobV3_1.schedule_dispatches_init_chain {j j' : JobV3_1}
    (ok : j.init = .ok (j', .success)) {env : ChainEnv}
    {ws : List (Nat × Tcb)} (chain : j'.setupTcbChainWrites env = .ok (ws, .success))
    (textSize : Nat) (validate : JobStatus → Status) (s : SchedState) (evs : List SchedEvent)
    (adm : (s.afterInit ws j'.totTcbCnt).writesAfterDispatch (j'.schedCfg textSize validate) evs) :
    ws.map Prod.fst = List.range (1 + j.graph.subgraphCnt * (4 + 1)) ∧
      ∀ snap ∈ ((s.afterInit ws j'.totTcbCnt).run (j'.schedCfg textSize validate) evs).tcb.dispatched,
        snap = ws.map fun w => some w.2 := by
  obtain ⟨graph, sgCnt, four⟩ := JobV3_1.init_params ok
  have slots := (JobV3_1.setupTcbChainWrites_layout chain (by rw [graph, sgCnt])).slots
  have len : (j'.schedCfg textSize validate).totTcbCnt = (ws.map fun w => some w.2).length := by
    rw [List.length_map, ← List.length_map ws Prod.fst, slots, List.length_range]
    rfl
  rw [sgCnt, four] at slots
  refine ⟨slots, (SchedState.run_primed len evs _ ?_ adm).dispatched⟩
  exact SchedState.afterInit_primed (by rw [slots, JobV3_1.totTcbCnt, sgCnt, four]) s

/-- Scenario E3's job before `init`, with an empty buffer. -/
def e3SchedStart : SchedState :=
  ⟨⟨fun _ => none, [], false, []⟩, .noStatus, false, false, 0⟩

/-- A run, a wipe of the buffer, a `bind_core`, another wipe and a `debugger_run`. -/
def e3Rerun : List SchedEvent :=
  [.schedule .success, .deviceWrite (fun _ => none), .jobEnded .done,
    .bindCore 0 (.ok 1) .success, .deviceWrite (fun _ => none),
    .debuggerRun .success (.success, .done)]

/-- Each of the three dispatches of `e3Rerun` hands the device scenario E3's chain,
although the device wiped the buffer after the first two. -/
theorem e3_rerun_dispatches_chain :
    ∃ j ws, (JobV3_1.create e3Graph true [] false [] .fresh (.once 0)).init = .ok (j, .success) ∧
      j.setupTcbChainWrites ⟨0, 0⟩ = .ok (ws, .success) ∧
      (e3SchedStart.afterInit ws j.totTcbCnt).writesAfterDispatch
        (j.schedCfg 4096 validateScheduleStatus) e3Rerun = true ∧
      ((e3SchedStart.afterInit ws j.totTcbCnt).run (j.schedCfg 4096 validateScheduleStatus)
        e3Rerun).tcb.dispatched.length = 3 ∧
      ∀ snap ∈ ((e3SchedStart.afterInit ws j.totTcbCnt).run
        (j.schedCfg 4096 validateScheduleStatus) e3Rerun).tcb.dispatched,
        snap = ws.map fun w => some w.2 := by
  refine ⟨_, _, rfl, rfl, rfl, rfl, ?_⟩
  exact (JobV3_1.schedule_dispatches_init_chain (j := JobV3_1.create e3Graph true [] false []
    .fresh (.once 0)) rfl rfl 4096 validateScheduleStatus e3SchedStart e3Rerun rfl).2

end AipuUmd
