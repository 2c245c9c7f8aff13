import AipuUmd.Job.Schedule
import AipuUmd.Job.Release
import AipuUmd.Simulator.Poll
import AipuUmd.Simulator.GroupId

/-!
# Jobs of one process on the simulator

The job model asks its device for group ids and hands it a `JobDesc`; the simulator
model serves `schedule`, `poll_status` and the engine's callbacks. Here the two run
together. A process creates `JobV3_1` objects that share one `SimulatorV3_1`, one
memory manager and one device log:

* `init` draws the job's grid id from the simulator's 16-bit counter (`get_grid_id`)
  and asks `get_start_group_id`, which searches `m_group_id_bitmap`; the rest of
  `init` is the job model's, and every `put_start_group_id` it issues (the unwinding
  of a failed `init`) clears the range it names;
* `schedule` is `JobV3_1::schedule`, whose `m_dev->schedule(desc)` is
  `SimulatorV3_1::schedule` on the job's descriptor, a step of `Sys`;
* `poll_status` calls and the engine's `GRID_END` are the simulator's own steps, and
  the step that returns sets its job DONE;
* `destroy` is the job model's, and its `put_start_group_id` clears the range.

The answers of the device that are not in the repository are given: a job's
partition, QoS, TCB address and text-section size with the job, and the bitmap with the
process (`MAX_GROUP_ID` is its length). The process calls `init` once per job, as the
API does when it creates one, and no call reaches a destroyed job.

* `Process.act_sys`: every step of the process is a step of the simulator with its
  callers, or leaves it as it was.
* `Process.run_reachable`: so the simulator of every run of the process is a
  reachable state of `Sys`, and every invariant of `Sys` holds of it.
-/

namespace AipuUmd

namespace SimulatorV3_1

/-- `SimulatorV3_1::get_grid_id`: `grid_id = m_grid_id++` on the 16-bit counter; the
call always succeeds. The result is the counter afterwards and the grid id. -/
def getGridId (counter : UInt16) : UInt16 × UInt16 := (counter + 1, counter)

/-- The bits of `[lo, lo + count)` cleared, over the bits from index `k` on. -/
def releaseRun (lo count : Nat) : Nat → List Bool → List Bool
  | _, [] => []
  | k, b :: rest => (b && !decide (lo ≤ k ∧ k < lo + count)) :: releaseRun lo count (k + 1) rest

/-- Modelled from the spec: `put_start_group_id` is not in the repository, and group ids
"are released in `destroy()`": the run `[start, start + count)` is cleared. -/
def putStartGroupId (bitmap : List Bool) (start count : Nat) : List Bool :=
  releaseRun start count 0 bitmap

/-- The bitmap after the simulator has served the `put_start_group_id` calls among a
job's device calls; its one `get_start_group_id` is answered before the job runs. -/
def servePuts (bitmap : List Bool) : List GroupEvent → List Bool
  | [] => bitmap
  | .get _ _ :: rest => servePuts bitmap rest
  | .put start count :: rest => servePuts (putStartGroupId bitmap start count) rest

/-- What the job's device answers to `get_start_group_id(count, start)` when the
simulator serves it on `bitmap`: `-1` is a failure, and `0` gives the value `start`
holds afterwards, the old one when the search wrote nothing. -/
def groupAnswer (bitmap : List Bool) (count start : Nat) : Option Nat :=
  if (getStartGroupId bitmap count).2.2 = -1 then none
  else some ((getStartGroupId bitmap count).2.1.getD start)

end SimulatorV3_1

/-- The job's device, holding only the simulator's answer, answers as the simulator:
a grant of `s` is logged as one `get` and leaves nothing to answer. -/
theorem Device.getStartGroupId_answer (answer : Option Nat) (log : List GroupEvent) {count : Nat}
    (pos : count ≠ 0) (start : Nat) :
    Device.getStartGroupId ⟨[answer], log⟩ count start =
      (⟨[], log ++ (answer.map fun s => GroupEvent.get s count).toList⟩, answer) := by
  cases answer <;> simp [Device.getStartGroupId, pos]

/-! ## The process -/

/-- What `JobV3_1::schedule` puts in the `JobDesc` besides the job's counts, and the size
of the graph's text section: the partition and QoS the job was created with and
`m_init_tcb.pa`, the address of its TCB buffer. -/
structure DescCfg where
  partId : Nat
  qos : Nat
  tcbHead : Nat
  textSize : Nat
deriving DecidableEq, Repr

/-- A job of the process: the job object and its configuration, `m_grid_id` (`none`
until `init` draws one), the job's status, and whether `init` and `destroy` have been
called. -/
structure ProcJob where
  job : JobV3_1
  cfg : DescCfg
  gridId : Option UInt16
  status : JobStatus
  initCalled : Bool
  destroyed : Bool
deriving DecidableEq, Repr

/-- The `JobDesc` job `id` hands the simulator, as the simulator reads it: `jobbase`,
the grid id, partition, QoS, subgraph count, `m_init_tcb.pa` and `m_tot_tcb_cnt`. -/
def ProcJob.desc (p : ProcJob) (id : Nat) : Job :=
  ⟨id, p.gridId.getD 0, p.cfg.partId, p.cfg.qos, p.job.sgCnt, p.cfg.tcbHead, p.job.totTcbCnt⟩

/-- The simulator with its callers, its grid counter and group-id bitmap, the memory
manager and the device's group-id log the jobs share, and the jobs, by index. `draws`
counts the grid ids drawn so far; the simulator does not keep it. -/
structure Process where
  sys : Sys
  gridCounter : UInt16
  draws : Nat
  bitmap : List Bool
  mem : MemMgr
  groupLog : List GroupEvent
  jobs : List ProcJob

/-- A process with no job yet, on a fresh simulator whose counter holds `gridBase` and
whose `maxGroupId` group ids are all free. -/
def Process.start (partitionMode maxGroupId : Nat) (gridBase : UInt16) (mem : MemMgr) : Process :=
  ⟨Sys.init partitionMode, gridBase, 0, List.replicate maxGroupId false, mem, [], []⟩

/-- Job `i` replaced. -/
def Process.setJob (P : Process) (i : Nat) (p : ProcJob) : Process :=
  { P with jobs := P.jobs.set i p }

/-- The job object as a call sees it: the process's memory manager, and a device whose
log is the process's and which holds `answers`. -/
def Process.attach (P : Process) (j : JobV3_1) (answers : List (Option Nat)) : JobV3_1 :=
  { j with mem := P.mem, dev := ⟨answers, P.groupLog⟩ }

/-- The process after a call of the job: the memory manager and the log as the call left
them, and `bitmap` with the call's `put`s served. -/
def Process.detach (P : Process) (bitmap : List Bool) (j : JobV3_1) : Process :=
  { P with
    mem := j.mem
    groupLog := j.dev.groupLog
    bitmap := SimulatorV3_1.servePuts bitmap (j.dev.groupLog.drop P.groupLog.length) }

/-- `new JobV3_1(…)`: the job takes the next index. -/
def Process.create (P : Process) (graph : Graph) (fmMemRegionDefault : Bool) (fmIdxes : List Nat)
    (dynShapeSet : Bool) (configShape : List Bool) (cfg : DescCfg) : Process :=
  { P with jobs := P.jobs ++ [⟨JobV3_1.create graph fmMemRegionDefault fmIdxes dynShapeSet configShape
      P.mem ⟨[], P.groupLog⟩, cfg, none, .noStatus, false, false⟩] }

/-- `JobV3_1::init` of job `i`, called once. A dynamic-shape graph whose shapes are not
set returns before any device call. Otherwise the simulator draws the grid id and
answers `get_start_group_id` from its bitmap, and the job model does the rest; a
successful `init` leaves the job INIT. A fault of the job's code stops the process. -/
def Process.initJob (P : Process) (i : Nat) : Option Process :=
  match P.jobs[i]? with
  | none => none
  | some p =>
    if p.initCalled || p.destroyed then none
    else if p.job.graph.dynamicShape ∧ !p.job.dynShapeSet then
      some (P.setJob i { p with initCalled := true })
    else
      let drawn := SimulatorV3_1.getGridId P.gridCounter
      let count := p.job.graph.subgraphCnt
      let answer := SimulatorV3_1.groupAnswer P.bitmap count p.job.startGroupId
      match (P.attach p.job [answer]).init with
      | .error _ => none
      | .ok (j, st) =>
        some (Process.setJob { P.detach (SimulatorV3_1.getStartGroupId P.bitmap count).1 j with
          gridCounter := drawn.1, draws := P.draws + 1 } i
          { p with job := j, gridId := some drawn.2, initCalled := true,
                   status := if st = .success then .init else p.status })

/-- `JobV3_1::schedule` of job `i`. A status `validate_schedule_status` refuses, or no
subgraph, changes nothing; without a text section nothing reaches the simulator;
otherwise `SimulatorV3_1::schedule` takes the job's descriptor and succeeds. The process
never calls `bind_core`, so no job is deferred and the job is SCHED afterwards. -/
def Process.scheduleJob (k : SimConsts) (P : Process) (i regVal pick : Nat) : Option Process :=
  match P.jobs[i]? with
  | none => none
  | some p =>
    if p.destroyed then none
    else if validateScheduleStatus p.status ≠ .success ∨ p.job.sgCnt = 0 then some P
    else if p.cfg.textSize = 0 then some (P.setJob i { p with status := .sched })
    else (P.sys.act k (.schedule (p.desc i) regVal pick)).map fun sys =>
      { P.setJob i { p with status := .sched } with sys }

/-- A `poll_status` call for job `i`, which reads the job's grid id and subgraph count
when it starts; a job without subgraphs is DONE at once. -/
def Process.pollCall (k : SimConsts) (P : Process) (i : Nat) : Option Process :=
  match P.jobs[i]? with
  | none => none
  | some p =>
    if p.destroyed then none
    else (P.sys.act k (.pollCall (p.desc i))).map fun sys =>
      { (if p.job.sgCnt = 0 then P.setJob i { p with status := .done } else P) with sys }

/-- One step of the `poll_status` call `l`; the step that returns sets its job DONE
(`update_job_status(AIPU_JOB_STATE_DONE)`). -/
def Process.poll (k : SimConsts) (P : Process) (l regVal pick : Nat) : Option Process :=
  (P.sys.act k (.poll l regVal pick)).map fun sys =>
    match sys.pollers.get? l with
    | some ⟨job, .finished⟩ =>
      { P with sys, jobs := P.jobs.modify (fun p => { p with status := .done }) job.id }
    | _ => { P with sys }

/-- `JobV3_1::destroy` of job `i`; its `put_start_group_id` is served. -/
def Process.destroyJob (P : Process) (i : Nat) : Option Process :=
  match P.jobs[i]? with
  | none => none
  | some p =>
    if p.destroyed then none
    else match (P.attach p.job []).destroy with
      | .error _ => none
      | .ok j => some ((P.detach P.bitmap j).setJob i { p with job := j, destroyed := true })

/-- One action of the process, with the inputs it reads. -/
inductive ProcAction
  | create (graph : Graph) (fmMemRegionDefault : Bool) (fmIdxes : List Nat) (dynShapeSet : Bool)
    (configShape : List Bool) (cfg : DescCfg)
  | init (i : Nat)
  | schedule (i regVal pick : Nat)
  | gridEnd (job : Job)
  | pollCall (i : Nat)
  | poll (l regVal pick : Nat)
  | destroy (i : Nat)

/-- The action performed, `none` when it is not enabled or the job's code faults. -/
def Process.act (k : SimConsts) (P : Process) : ProcAction → Option Process
  | .create graph fm fmIdxes dynShapeSet configShape cfg =>
    some (P.create graph fm fmIdxes dynShapeSet configShape cfg)
  | .init i => P.initJob i
  | .schedule i regVal pick => P.scheduleJob k i regVal pick
  | .gridEnd job => (P.sys.act k (.gridEnd job)).map fun sys => { P with sys }
  | .pollCall i => P.pollCall k i
  | .poll l regVal pick => P.poll k l regVal pick
  | .destroy i => P.destroyJob i

/-- The actions performed in order, `none` as soon as one is not. -/
def Process.run (k : SimConsts) : List ProcAction → Process → Option Process
  | [], P => some P
  | a :: acts, P => (P.act k a).bind (Process.run k acts)

/-! ## What each action does -/

section Actions

variable {k : SimConsts} {P P' : Process}

@[simp] theorem Process.setJob_sys (P : Process) (i : Nat) (p : ProcJob) :
    (P.setJob i p).sys = P.sys := rfl

@[simp] theorem Process.setJob_jobs (P : Process) (i : Nat) (p : ProcJob) :
    (P.setJob i p).jobs = P.jobs.set i p := rfl

@[simp] theorem Process.setJob_draws (P : Process) (i : Nat) (p : ProcJob) :
    (P.setJob i p).draws = P.draws := rfl

@[simp] theorem Process.detach_sys (P : Process) (bitmap : List Bool) (j : JobV3_1) :
    (P.detach bitmap j).sys = P.sys := rfl

@[simp] theorem Process.detach_jobs (P : Process) (bitmap : List Bool) (j : JobV3_1) :
    (P.detach bitmap j).jobs = P.jobs := rfl

@[simp] theorem Process.detach_draws (P : Process) (bitmap : List Bool) (j : JobV3_1) :
    (P.detach bitmap j).draws = P.draws := rfl

/-- `init` of a job not yet initialized either stops at the shape check, or runs with
the simulator's answer, draws the next grid id, and leaves the job INIT when it
succeeds. -/
theorem Process.initJob_cases {i : Nat} (done : P.initJob i = some P') :
    ∃ p, P.jobs[i]? = some p ∧ p.initCalled = false ∧ p.destroyed = false ∧
      ((p.job.graph.dynamicShape ∧ !p.job.dynShapeSet) ∧ P' = P.setJob i { p with initCalled := true } ∨
        ∃ j st, (P.attach p.job [SimulatorV3_1.groupAnswer P.bitmap p.job.graph.subgraphCnt
            p.job.startGroupId]).init = .ok (j, st) ∧
          P' = Process.setJob { P.detach (SimulatorV3_1.getStartGroupId P.bitmap p.job.graph.subgraphCnt).1 j with
            gridCounter := P.gridCounter + 1, draws := P.draws + 1 } i
            { p with job := j, gridId := some P.gridCounter, initCalled := true,
                     status := if st = .success then .init else p.status }) := by
  unfold Process.initJob at done
  split at done
  · cases done
  rename_i p at_i
  split at done
  · cases done
  rename_i fresh
  simp only [Bool.or_eq_true, not_or, Bool.not_eq_true] at fresh
  refine ⟨p, at_i, fresh.1, fresh.2, ?_⟩
  split at done
  · cases done
    exact .inl ⟨‹_›, rfl⟩
  dsimp only at done
  split at done
  · cases done
  · rename_i j st ok
    cases done
    exact .inr ⟨j, st, ok, rfl⟩

/-- `schedule` of a live job changes nothing when the job's status is refused or it has
no subgraph; otherwise the job is SCHED, and with a text section the simulator takes
its descriptor. -/
theorem Process.scheduleJob_cases {i regVal pick : Nat} (done : P.scheduleJob k i regVal pick = some P') :
    ∃ p, P.jobs[i]? = some p ∧ p.destroyed = false ∧
      ((validateScheduleStatus p.status ≠ .success ∨ p.job.sgCnt = 0) ∧ P' = P ∨
        validateScheduleStatus p.status = .success ∧ p.job.sgCnt ≠ 0 ∧
          (p.cfg.textSize = 0 ∧ P' = P.setJob i { p with status := .sched } ∨
            p.cfg.textSize ≠ 0 ∧ P' = { P.setJob i { p with status := .sched } with
              sys := { P.sys with
                sim := P.sys.sim.schedule k (p.desc i) regVal pick
                scheduled := P.sys.scheduled ++ [p.desc i]
                pending := P.sys.pending ++ [p.desc i] } })) := by
  unfold Process.scheduleJob at done
  split at done
  · cases done
  rename_i p at_i
  split at done
  · cases done
  rename_i alive
  refine ⟨p, at_i, by simpa using alive, ?_⟩
  split at done
  · cases done
    exact .inl ⟨‹_›, rfl⟩
  rename_i valid
  rw [not_or, not_not] at valid
  refine .inr ⟨valid.1, valid.2, ?_⟩
  split at done
  · cases done
    exact .inl ⟨‹_›, rfl⟩
  · obtain ⟨sys, acted, rfl⟩ := Option.map_eq_some'.mp done
    have pos : 0 < (p.desc i).subgraphCnt := Nat.pos_of_ne_zero valid.2
    simp only [Sys.act, if_pos pos, Option.some.injEq] at acted
    subst acted
    exact .inr ⟨‹_›, rfl⟩

/-- A `poll_status` call starts with the job's descriptor as it is; a job without
subgraphs is DONE at once. -/
theorem Process.pollCall_cases {i : Nat} (done : P.pollCall k i = some P') :
    ∃ p, P.jobs[i]? = some p ∧ p.destroyed = false ∧
      P' = { (if p.job.sgCnt = 0 then P.setJob i { p with status := .done } else P) with
        sys := { P.sys with pollers := P.sys.pollers ++ [Poller.start (p.desc i)] } } := by
  unfold Process.pollCall at done
  split at done
  · cases done
  rename_i p at_i
  split at done
  · cases done
  rename_i alive
  obtain ⟨sys, acted, rfl⟩ := Option.map_eq_some'.mp done
  cases acted
  exact ⟨p, at_i, by simpa using alive, rfl⟩

/-- A step of call `l` is the simulator's, and the step that returns sets the job of
the call DONE. -/
theorem Process.poll_cases {l regVal pick : Nat} (done : P.poll k l regVal pick = some P') :
    ∃ p sim' pc, P.sys.pollers.get? l = some p ∧
      P.sys.sim.pollStep k p P.sys.pollMtexFree regVal pick = some (sim', pc) ∧
      P' = { P with
        sys := { P.sys with
          sim := sim'
          pollers := P.sys.pollers.set l ⟨p.job, pc⟩
          pending := if pc = .finished then P.sys.pending.erase p.job else P.sys.pending }
        jobs := if pc = .finished then P.jobs.modify (fun q => { q with status := .done }) p.job.id
          else P.jobs } := by
  obtain ⟨sys, acted, rfl⟩ := Option.map_eq_some'.mp done
  simp only [Sys.act] at acted
  split at acted
  · cases acted
  rename_i p at_l
  split at acted
  · cases acted
  rename_i sim' pc moves
  cases acted
  have called : (P.sys.pollers.set l ⟨p.job, pc⟩).get? l = some ⟨p.job, pc⟩ := by
    rw [List.get?_eq_getElem?, List.getElem?_set_eq_of_lt _ (List.get?_eq_some.mp at_l).1]
  refine ⟨p, sim', pc, at_l, moves, ?_⟩
  simp only [called]
  by_cases finished : pc = .finished
  · subst finished
    rfl
  · split
    · rename_i same
      cases same
      exact absurd rfl finished
    · simp only [if_neg finished]

/-- `destroy` of a live job is the job model's, with its `put` served. -/
theorem Process.destroyJob_cases {i : Nat} (done : P.destroyJob i = some P') :
    ∃ p j, P.jobs[i]? = some p ∧ p.destroyed = false ∧ (P.attach p.job []).destroy = .ok j ∧
      P' = (P.detach P.bitmap j).setJob i { p with job := j, destroyed := true } := by
  unfold Process.destroyJob at done
  split at done
  · cases done
  rename_i p at_i
  split at done
  · cases done
  rename_i alive
  split at done
  · cases done
  · rename_i j ok
    cases done
    exact ⟨p, j, at_i, by simpa using alive, ok, rfl⟩

/-- `init` of a job not yet initialized that passes the shape check runs the job model
on the simulator's answer and draws the next grid id. -/
theorem Process.initJob_eq {i : Nat} {p : ProcJob} (at_i : P.jobs[i]? = some p)
    (fresh : p.initCalled = false) (alive : p.destroyed = false)
    (checked : p.job.graph.dynamicShape → p.job.dynShapeSet) {j : JobV3_1} {st : Status}
    (ok : (P.attach p.job [SimulatorV3_1.groupAnswer P.bitmap p.job.graph.subgraphCnt
      p.job.startGroupId]).init = .ok (j, st)) :
    P.initJob i = some (Process.setJob { P.detach (SimulatorV3_1.getStartGroupId P.bitmap
        p.job.graph.subgraphCnt).1 j with gridCounter := P.gridCounter + 1, draws := P.draws + 1 } i
      { p with job := j, gridId := some P.gridCounter, initCalled := true,
               status := if st = .success then .init else p.status }) := by
  have passes : ¬(p.job.graph.dynamicShape ∧ !p.job.dynShapeSet) := fun ⟨dyn, unset⟩ => by
    simp [checked dyn] at unset
  simp only [Process.initJob, at_i, fresh, alive, Bool.or_self, Bool.false_eq_true, if_false,
    if_neg passes, ok]
  rfl

/-- `schedule` of a live job the status check accepts, with subgraphs and a text
section, hands its descriptor to the simulator and makes it SCHED. -/
theorem Process.scheduleJob_eq {i regVal pick : Nat} {p : ProcJob} (at_i : P.jobs[i]? = some p)
    (alive : p.destroyed = false) (valid : validateScheduleStatus p.status = .success)
    (hasSubgraphs : p.job.sgCnt ≠ 0) (text : p.cfg.textSize ≠ 0) :
    P.scheduleJob k i regVal pick = some { P.setJob i { p with status := .sched } with
      sys := { P.sys with
        sim := P.sys.sim.schedule k (p.desc i) regVal pick
        scheduled := P.sys.scheduled ++ [p.desc i]
        pending := P.sys.pending ++ [p.desc i] } } := by
  have pos : 0 < (p.desc i).subgraphCnt := Nat.pos_of_ne_zero hasSubgraphs
  simp only [Process.scheduleJob, at_i, alive, valid, hasSubgraphs, text, Bool.false_eq_true,
    if_false, ne_eq, not_true_eq_false, or_self, Sys.act, if_pos pos, Option.map_some']

/-- A `poll_status` call for a live job starts a call of the simulator. -/
theorem Process.pollCall_eq {i : Nat} {p : ProcJob} (at_i : P.jobs[i]? = some p)
    (alive : p.destroyed = false) :
    P.pollCall k i = some { (if p.job.sgCnt = 0 then P.setJob i { p with status := .done } else P) with
      sys := { P.sys with pollers := P.sys.pollers ++ [Poller.start (p.desc i)] } } := by
  simp only [Process.pollCall, at_i, alive, Bool.false_eq_true, if_false, Sys.act, Option.map_some']

/-- `destroy` of a live job whose job model succeeds. -/
theorem Process.destroyJob_eq {i : Nat} {p : ProcJob} (at_i : P.jobs[i]? = some p)
    (alive : p.destroyed = false) {j : JobV3_1} (ok : (P.attach p.job []).destroy = .ok j) :
    P.destroyJob i = some ((P.detach P.bitmap j).setJob i { p with job := j, destroyed := true }) := by
  simp only [Process.destroyJob, at_i, alive, Bool.false_eq_true, if_false, ok]

/-- A call that logged `events` after the process's log leaves the bitmap with their
`put`s served. -/
theorem Process.detach_bitmap {bitmap : List Bool} {j : JobV3_1} {events : List GroupEvent}
    (log : j.dev.groupLog = P.groupLog ++ events) :
    (P.detach bitmap j).bitmap = SimulatorV3_1.servePuts bitmap events := by
  simp only [Process.detach, log, List.drop_left]

/-- A run of two lists of actions is the run of the first followed by the second. -/
theorem Process.run_append (xs ys : List ProcAction) (P : Process) :
    P.run k (xs ++ ys) = (P.run k xs).bind (Process.run k ys) := by
  induction xs generalizing P with
  | nil => rfl
  | cons a xs ih => simp only [List.cons_append, Process.run, List.append_eq, ih, Option.bind_assoc]

end Actions

/-! ## The simulator's part of a run -/

section Projection

variable {k : SimConsts} {P P' : Process}

/-- A step of the process is a step of the simulator with its callers, or leaves it as
it was. -/
theorem Process.act_sys {a : ProcAction} (done : P.act k a = some P') :
    Step k P.sys P'.sys ∨ P'.sys = P.sys := by
  cases a with
  | create => cases done; exact .inr rfl
  | init i =>
    obtain ⟨p, -, -, -, ⟨-, rfl⟩ | ⟨j, st, -, rfl⟩⟩ := Process.initJob_cases done <;> exact .inr rfl
  | schedule i regVal pick =>
    obtain ⟨p, -, -, ⟨-, rfl⟩ | ⟨-, sg, ⟨-, rfl⟩ | ⟨-, rfl⟩⟩⟩ := Process.scheduleJob_cases done
    · exact .inr rfl
    · exact .inr rfl
    · exact .inl (.schedule _ _ regVal pick (Nat.pos_of_ne_zero sg))
  | gridEnd job =>
    obtain ⟨sys, acted, rfl⟩ := Option.map_eq_some'.mp done
    exact .inl (Sys.act_step acted)
  | pollCall i =>
    obtain ⟨p, -, -, rfl⟩ := Process.pollCall_cases done
    exact .inl (.pollCall _ _)
  | poll l regVal pick =>
    obtain ⟨p, sim', pc, at_l, moves, rfl⟩ := Process.poll_cases done
    exact .inl (.poll _ l p regVal pick sim' pc at_l moves)
  | destroy i =>
    obtain ⟨p, j, -, -, -, rfl⟩ := Process.destroyJob_cases done
    exact .inr rfl

theorem Process.run_sys {acts : List ProcAction} (done : P.run k acts = some P') :
    Relation.ReflTransGen (Step k) P.sys P'.sys := by
  induction acts generalizing P with
  | nil => cases done; exact .refl
  | cons a acts ih =>
    obtain ⟨Q, first, rest⟩ := Option.bind_eq_some.mp done
    rcases Process.act_sys first with step | same
    · exact .head step (ih rest)
    · exact same ▸ ih rest

/-- The simulator of every run of the process is reachable. -/
theorem Process.run_reachable {mode maxGroupId : Nat} {gridBase : UInt16} {mem : MemMgr}
    {acts : List ProcAction} (done : (Process.start mode maxGroupId gridBase mem).run k acts = some P) :
    Reachable k P.sys :=
  ⟨mode, Process.run_sys done⟩

end Projection

end AipuUmd
