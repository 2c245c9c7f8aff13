import AipuUmd.Simulator.Model

/-!
# Interleavings of the simulator back end

The simulator is shared by every job of the process. `Step` is one atomic action of
the system: a `schedule` call (all of it runs under the write lock `m_lock`), the
engine ending a running chain with its `AIPU_EV_GRID_END` callback, a new
`poll_status` call, or one atomic step of a call in flight. Calls in flight are
threads; `m_poll_mtex` lets one of them at a time past the commit test.

Two ghost records keep the callers' side of the history, which the simulator itself
forgets: `scheduled`, the jobs in the order their `schedule` calls took `m_lock`, and
`pending`, the jobs scheduled and not yet reported DONE by a `poll_status` call.
-/

namespace AipuUmd

/-- The simulator with its callers. -/
structure Sys where
  sim : Sim
  pollers : List Poller
  scheduled : List Job
  pending : List Job

/-- No job scheduled and no call in flight. -/
def Sys.init (partitionMode : Nat) : Sys := ⟨Sim.init partitionMode, [], [], []⟩

/-- `m_poll_mtex` is free when no call in flight holds it. -/
def Sys.pollMtexFree (s : Sys) : Bool := !s.pollers.any Poller.holdsPollMtex

/-- One atomic action of the system. `JobV3_1::schedule` hands the simulator only
jobs with a subgraph. -/
inductive Step (k : SimConsts) : Sys → Sys → Prop
  | schedule (s : Sys) (job : Job) (regVal pick : Nat) (hasSubgraph : 0 < job.subgraphCnt) :
    Step k s { s with
      sim := s.sim.schedule k job regVal pick
      scheduled := s.scheduled ++ [job]
      pending := s.pending ++ [job] }
  | gridEnd (s : Sys) (job : Job) (running : job ∈ s.sim.aipu.running) :
    Step k s { s with sim := s.sim.gridEnd job }
  | pollCall (s : Sys) (job : Job) :
    Step k s { s with pollers := s.pollers ++ [Poller.start job] }
  | poll (s : Sys) (i : Nat) (p : Poller) (regVal pick : Nat) (sim' : Sim) (pc : PollPc)
    (at_i : s.pollers.get? i = some p)
    (moves : s.sim.pollStep k p s.pollMtexFree regVal pick = some (sim', pc)) :
    Step k s { s with
      sim := sim'
      pollers := s.pollers.set i ⟨p.job, pc⟩
      pending := if pc = .finished then s.pending.erase p.job else s.pending }

/-- The states reachable from a fresh simulator. -/
def Reachable (k : SimConsts) (s : Sys) : Prop :=
  ∃ mode, Relation.ReflTransGen (Step k) (Sys.init mode) s

/-- An invariant of every reachable state: it holds of a fresh simulator and every
step keeps it. -/
theorem Reachable.inv {k : SimConsts} {P : Sys → Prop} (init : ∀ mode, P (Sys.init mode))
    (step : ∀ s s', P s → Step k s s' → P s') {s : Sys} (reach : Reachable k s) : P s := by
  obtain ⟨mode, run⟩ := reach
  induction run with
  | refl => exact init mode
  | tail _ last ih => exact step _ _ ih last

/-! ## Runs as programs -/

/-- One action of the system, with the inputs it reads. -/
inductive Action
  | schedule (job : Job) (regVal pick : Nat)
  | gridEnd (job : Job)
  | pollCall (job : Job)
  | poll (i : Nat) (regVal pick : Nat)

/-- The action performed, `none` when it is not enabled. -/
def Sys.act (k : SimConsts) (s : Sys) : Action → Option Sys
  | .schedule job regVal pick =>
    if 0 < job.subgraphCnt then
      some { s with
        sim := s.sim.schedule k job regVal pick
        scheduled := s.scheduled ++ [job]
        pending := s.pending ++ [job] }
    else none
  | .gridEnd job =>
    if job ∈ s.sim.aipu.running then some { s with sim := s.sim.gridEnd job } else none
  | .pollCall job => some { s with pollers := s.pollers ++ [Poller.start job] }
  | .poll i regVal pick =>
    match s.pollers.get? i with
    | none => none
    | some p =>
      match s.sim.pollStep k p s.pollMtexFree regVal pick with
      | none => none
      | some (sim', pc) =>
        some { s with
          sim := sim'
          pollers := s.pollers.set i ⟨p.job, pc⟩
          pending := if pc = .finished then s.pending.erase p.job else s.pending }

/-- The actions performed in order, `none` as soon as one is not enabled. -/
def Sys.run (k : SimConsts) : List Action → Sys → Option Sys
  | [], s => some s
  | a :: acts, s => (s.act k a).bind (Sys.run k acts)

theorem Sys.act_step {k : SimConsts} {s s' : Sys} {a : Action} (done : s.act k a = some s') :
    Step k s s' := by
  cases a with
  | schedule job regVal pick =>
    simp only [Sys.act] at done
    split at done
    · cases done; exact .schedule s job regVal pick ‹_›
    · cases done
  | gridEnd job =>
    simp only [Sys.act] at done
    split at done
    · cases done; exact .gridEnd s job ‹_›
    · cases done
  | pollCall job => cases done; exact .pollCall s job
  | poll i regVal pick =>
    simp only [Sys.act] at done
    split at done
    · cases done
    · rename_i p at_i
      split at done
      · cases done
      · rename_i sim' pc moves
        cases done
        exact .poll s i p regVal pick sim' pc at_i moves

theorem Sys.run_reaches {k : SimConsts} {acts : List Action} {s s' : Sys}
    (done : s.run k acts = some s') : Relation.ReflTransGen (Step k) s s' := by
  induction acts generalizing s with
  | nil => cases done; exact .refl
  | cons a acts ih =>
    obtain ⟨t, first, rest⟩ := Option.bind_eq_some.mp done
    exact .head (Sys.act_step first) (ih rest)

/-! ## Frame lemmas of the operations -/

@[simp] theorem Sim.dispatch_bufferQueue (s : Sim) (job : Job) (rest : List Job) (key : UInt16)
    (ws : List RegWrite) : (s.dispatch job rest key ws).bufferQueue = rest := rfl

@[simp] theorem Sim.dispatch_cantAddJobFlag (s : Sim) (job : Job) (rest : List Job)
    (key : UInt16) (ws : List RegWrite) : (s.dispatch job rest key ws).cantAddJobFlag = true :=
  rfl

@[simp] theorem Sim.dispatch_commitMap (s : Sim) (job : Job) (rest : List Job) (key : UInt16)
    (ws : List RegWrite) : (s.dispatch job rest key ws).commitMap = s.commitMap.insert key job :=
  rfl

@[simp] theorem Sim.dispatch_started (s : Sim) (job : Job) (rest : List Job) (key : UInt16)
    (ws : List RegWrite) : (s.dispatch job rest key ws).aipu.started = s.aipu.started ++ [job] :=
  rfl

@[simp] theorem Sim.dispatch_doneSet (s : Sim) (job : Job) (rest : List Job) (key : UInt16)
    (ws : List RegWrite) : (s.dispatch job rest key ws).doneSet = s.doneSet := rfl

@[simp] theorem Sim.dispatch_simDoneGridSet (s : Sim) (job : Job) (rest : List Job)
    (key : UInt16) (ws : List RegWrite) :
    (s.dispatch job rest key ws).simDoneGridSet = s.simDoneGridSet := rfl

@[simp] theorem Sim.dispatch_running (s : Sim) (job : Job) (rest : List Job) (key : UInt16)
    (ws : List RegWrite) : (s.dispatch job rest key ws).aipu.running = s.aipu.running ++ [job] :=
  rfl

@[simp] theorem Sim.gridEnd_running (s : Sim) (job : Job) :
    (s.gridEnd job).aipu.running = s.aipu.running.erase job := rfl

@[simp] theorem Sim.gridEnd_simDoneGridSet (s : Sim) (job : Job) :
    (s.gridEnd job).simDoneGridSet = s.simDoneGridSet.insert job.gridId := rfl

@[simp] theorem pushPop_cons (queue : List Job) (job : Job) :
    (pushPop queue job).1 :: (pushPop queue job).2 = queue ++ [job] := by
  cases queue <;> rfl

/-- A `TSM_STATUS` reading of `0` shows every pool free. -/
@[simp] theorem isCmdpoolFull_zero (k : SimConsts) (qos partId mode cluster : Nat) :
    isCmdpoolFull k qos partId mode cluster 0 = false := by
  simp [isCmdpoolFull]

/-- A `TSM_STATUS` reading of `0xffff` shows every pool of cluster 0 full. -/
@[simp] theorem isCmdpoolFull_ffff (k : SimConsts) (qos partId mode : Nat) :
    isCmdpoolFull k qos partId mode 0 0xffff = true := by
  unfold isCmdpoolFull
  split <;> dsimp only <;> split <;> decide

/-! ## Drains touch only the done set, the commit map and the busy flag -/

/-- A projection that one pass of the drain loop leaves alone is left alone by the
whole loop. -/
theorem foldl_drainGrid_inv (P : Sim → Prop) (pass : ∀ acc g, P acc.1 → P (drainGrid acc g).1)
    (grids : List UInt16) (acc : Sim × List UInt16) (start : P acc.1) :
    P (grids.foldl drainGrid acc).1 := by
  induction grids generalizing acc with
  | nil => exact start
  | cons g grids ih => exact ih _ (pass acc g start)

theorem foldl_drainGrid_preserves {α : Type} (f : Sim → α)
    (pass : ∀ acc g, f (drainGrid acc g).1 = f acc.1) (grids : List UInt16)
    (acc : Sim × List UInt16) : f (grids.foldl drainGrid acc).1 = f acc.1 :=
  foldl_drainGrid_inv (fun s => f s = f acc.1) (fun acc' g same => (pass acc' g).trans same)
    grids acc rfl

theorem drainGrid_aipu (acc : Sim × List UInt16) (g : UInt16) :
    (drainGrid acc g).1.aipu = acc.1.aipu := by
  unfold drainGrid; split <;> rfl

theorem drainGrid_bufferQueue (acc : Sim × List UInt16) (g : UInt16) :
    (drainGrid acc g).1.bufferQueue = acc.1.bufferQueue := by
  unfold drainGrid; split <;> rfl

section Spec

variable (k : SimConsts)

/-- `fill_commit_queue` runs its loop at most once: `max_limit` is 1. -/
theorem Sim.fillCommitQueue_eq (s : Sim) (regVal pick : Nat) :
    s.fillCommitQueue k regVal pick =
      if 16 ≤ s.commitSize then s
      else
        match s.bufferQueue with
        | [] => s
        | job :: rest =>
          if isCmdpoolFull k job.qos (clampPart k job.partId) s.partitionMode 0 regVal then
            { s with bindCmdpoolId := (bindCmdpool s.bindCmdpoolId job pick).2 }
          else
            Sim.dispatch { s with bindCmdpoolId := (bindCmdpool s.bindCmdpoolId job pick).2 }
              job rest job.gridId
              (fillWrites job
                (ctrlFields (clampPart k job.partId) (bindCmdpool s.bindCmdpoolId job pick).1 job.qos))
      := by
  unfold Sim.fillCommitQueue
  split
  · rfl
  · rcases hq : s.bufferQueue with _ | ⟨job, rest⟩
    · simp [hq, Sim.fillLoop]
    · simp only [hq, List.length_cons, fillMaxLimit, Nat.min_eq_right (Nat.le_add_left 1 _)]
      simp only [Sim.fillLoop, hq]

/-- `schedule` without its `let`s: a busy simulator or a full pool only queues. -/
theorem Sim.schedule_eq (s : Sim) (job : Job) (regVal pick : Nat) :
    s.schedule k job regVal pick =
      if (s.cantAddJobFlag ||
          isCmdpoolFull k job.qos (clampPart k job.partId) s.partitionMode 0 regVal) = true then
        { s with
          bindCmdpoolId := (bindCmdpool s.bindCmdpoolId job pick).2
          bufferQueue := s.bufferQueue ++ [job] }
      else
        Sim.dispatch { s with bindCmdpoolId := (bindCmdpool s.bindCmdpoolId job pick).2 }
          (pushPop s.bufferQueue job).1 (pushPop s.bufferQueue job).2 job.gridId
          (scheduleWrites (pushPop s.bufferQueue job).1
            (ctrlFields (clampPart k job.partId) (bindCmdpool s.bindCmdpoolId job pick).1 job.qos)) :=
  rfl

/-! The queue only loses jobs, except for the one `schedule` pushes. -/

theorem Sim.schedule_queue_mem {s : Sim} {job j : Job} {regVal pick : Nat}
    (mem : j ∈ (s.schedule k job regVal pick).bufferQueue) : j ∈ s.bufferQueue ∨ j = job := by
  rw [Sim.schedule_eq] at mem
  split at mem
  · simpa using mem
  · have pushed : j ∈ s.bufferQueue ++ [job] := by
      rw [← pushPop_cons]; exact List.mem_cons_of_mem _ mem
    simpa using pushed

theorem Sim.fillCommitQueue_queue_mem {s : Sim} {j : Job} {regVal pick : Nat}
    (mem : j ∈ (s.fillCommitQueue k regVal pick).bufferQueue) : j ∈ s.bufferQueue := by
  rw [Sim.fillCommitQueue_eq] at mem
  split at mem
  · exact mem
  · split at mem
    · exact mem
    · rename_i job rest queue
      rw [queue]
      split at mem
      · simpa [queue] using mem
      · exact List.mem_cons_of_mem _ mem

theorem Sim.drainGrids_bufferQueue (s : Sim) : s.drainGrids.bufferQueue = s.bufferQueue :=
  foldl_drainGrid_preserves Sim.bufferQueue drainGrid_bufferQueue _ _

theorem Sim.drainDoneGrids_queue_mem {s : Sim} {j : Job} {regVal pick : Nat}
    (mem : j ∈ (s.drainDoneGrids k regVal pick).bufferQueue) : j ∈ s.bufferQueue := by
  unfold Sim.drainDoneGrids at mem
  dsimp only at mem
  rw [← s.drainGrids_bufferQueue]
  split at mem
  · exact Sim.fillCommitQueue_queue_mem k mem
  · exact mem

theorem Sim.pollStep_queue_mem {s s' : Sim} {p : Poller} {free : Bool} {regVal pick : Nat}
    {pc : PollPc} (moves : s.pollStep k p free regVal pick = some (s', pc)) {j : Job}
    (mem : j ∈ s'.bufferQueue) : j ∈ s.bufferQueue := by
  unfold Sim.pollStep at moves
  split at moves <;> (try split at moves) <;> (try split at moves) <;>
    simp only [Option.some.injEq, Prod.mk.injEq, reduceCtorEq] at moves <;>
    obtain ⟨rfl, -⟩ := moves
  all_goals first | exact mem | exact Sim.drainDoneGrids_queue_mem k mem

end Spec

/-! ## Runs that do not depend on the header constants -/

/-- A `TSM_STATUS` reading that shows cluster 0 either all free or all full. -/
def PlainReading (regVal : Nat) : Prop := regVal = 0 ∨ regVal = 0xffff

/-- An action whose reading is plain and whose scheduled job uses partition 0. -/
def Action.Plain : Action → Prop
  | .schedule job regVal _ => job.partId = 0 ∧ PlainReading regVal
  | .gridEnd _ => True
  | .pollCall _ => True
  | .poll _ regVal _ => PlainReading regVal

instance (regVal : Nat) : Decidable (PlainReading regVal) :=
  inferInstanceAs (Decidable (regVal = 0 ∨ regVal = 0xffff))

instance : (a : Action) → Decidable a.Plain
  | .schedule job regVal _ => inferInstanceAs (Decidable (job.partId = 0 ∧ PlainReading regVal))
  | .gridEnd _ => inferInstanceAs (Decidable True)
  | .pollCall _ => inferInstanceAs (Decidable True)
  | .poll _ regVal _ => inferInstanceAs (Decidable (PlainReading regVal))

@[simp] theorem clampPart_zero (k : SimConsts) : clampPart k 0 = 0 := by
  simp [clampPart]

theorem isCmdpoolFull_plain (k k' : SimConsts) {regVal : Nat} (plain : PlainReading regVal)
    (qos partId partId' mode : Nat) :
    isCmdpoolFull k qos partId mode 0 regVal = isCmdpoolFull k' qos partId' mode 0 regVal := by
  rcases plain with rfl | rfl <;> simp

section Consts

variable (k k' : SimConsts) {regVal : Nat} (plain : PlainReading regVal)
include plain

theorem Sim.fillCommitQueue_consts (s : Sim) (pick : Nat)
    (queue : ∀ job ∈ s.bufferQueue, job.partId = 0) :
    s.fillCommitQueue k regVal pick = s.fillCommitQueue k' regVal pick := by
  rw [Sim.fillCommitQueue_eq, Sim.fillCommitQueue_eq]
  split
  · rfl
  · rcases hq : s.bufferQueue with _ | ⟨job, rest⟩
    · rfl
    · have part : job.partId = 0 := queue job (by simp [hq])
      simp only [part, clampPart_zero, isCmdpoolFull_plain k k' plain job.qos 0 0]

theorem Sim.pollStep_consts (s : Sim) (p : Poller) (free : Bool) (pick : Nat)
    (queue : ∀ job ∈ s.bufferQueue, job.partId = 0) :
    s.pollStep k p free regVal pick = s.pollStep k' p free regVal pick := by
  unfold Sim.pollStep Sim.drainDoneGrids
  dsimp only
  rw [Sim.fillCommitQueue_consts k k' plain _ _ (s.drainGrids_bufferQueue ▸ queue)]

end Consts

/-- Every queued job uses partition 0. -/
def Sys.QueuePlain (s : Sys) : Prop := ∀ job ∈ s.sim.bufferQueue, job.partId = 0

theorem Sys.act_consts (k k' : SimConsts) (s : Sys) {a : Action} (plain : a.Plain)
    (queue : s.QueuePlain) : s.act k a = s.act k' a := by
  cases a with
  | schedule job regVal pick =>
    obtain ⟨part, reading⟩ := plain
    simp only [Sys.act, Sim.schedule_eq, part, clampPart_zero,
      isCmdpoolFull_plain k k' reading job.qos 0 0]
  | gridEnd => rfl
  | pollCall => rfl
  | poll i regVal pick =>
    simp only [Sys.act, Sim.pollStep_consts k k' plain _ _ _ _ queue]

theorem Sys.act_queuePlain {k : SimConsts} {s t : Sys} {a : Action} (plain : a.Plain)
    (queue : s.QueuePlain) (done : s.act k a = some t) : t.QueuePlain := by
  intro j mem
  cases a with
  | schedule job regVal pick =>
    simp only [Sys.act] at done
    split at done
    · cases done
      rcases Sim.schedule_queue_mem k mem with old | rfl
      · exact queue j old
      · exact plain.1
    · cases done
  | gridEnd job =>
    simp only [Sys.act] at done
    split at done
    · cases done; exact queue j mem
    · cases done
  | pollCall job => cases done; exact queue j mem
  | poll i regVal pick =>
    simp only [Sys.act] at done
    split at done
    · cases done
    · split at done
      · cases done
      · rename_i moves
        cases done
        exact queue j (Sim.pollStep_queue_mem k moves mem)

/-- A run of plain actions from a state whose queued jobs use partition 0 is the same
for all header constants. -/
theorem Sys.run_consts (k k' : SimConsts) {acts : List Action} (plain : ∀ a ∈ acts, a.Plain)
    {s : Sys} (queue : s.QueuePlain) : s.run k acts = s.run k' acts := by
  induction acts generalizing s with
  | nil => rfl
  | cons a acts ih =>
    have head := plain a (List.mem_cons_self _ _)
    have tail := fun b mem => plain b (List.mem_cons_of_mem a mem)
    have same := Sys.act_consts k k' s head queue
    show (s.act k a).bind (Sys.run k acts) = (s.act k' a).bind (Sys.run k' acts)
    rw [same]
    cases done : s.act k' a with
    | none => rw [Option.none_bind, Option.none_bind]
    | some t => exact ih tail (Sys.act_queuePlain head queue (same.trans done))

/-- The initial state's queue is empty, so runs from it may use `Sys.run_consts`. -/
theorem Sys.init_queuePlain (mode : Nat) : (Sys.init mode).QueuePlain :=
  fun _ mem => nomatch mem

/-- A run of plain actions from a fresh simulator reaches the same state whatever the
header constants. -/
theorem Sys.run_init_any {acts : List Action} (plain : ∀ a ∈ acts, a.Plain) (mode : Nat)
    {s : Sys} (done : (Sys.init mode).run ⟨0, 0, 0⟩ acts = some s) (k : SimConsts) :
    (Sys.init mode).run k acts = some s ∧ Reachable k s := by
  rw [Sys.run_consts k ⟨0, 0, 0⟩ plain (Sys.init_queuePlain mode)]
  exact ⟨done, mode, Sys.run_reaches (by rwa [Sys.run_consts k ⟨0, 0, 0⟩ plain (Sys.init_queuePlain mode)])⟩

/-! ## Jobs of the example runs -/

/-- A job of subgraph count 1 with grid id 0 and slow QoS. -/
def jobA : Job := ⟨1, 0, 0, 0, 1, 0x1000, 21⟩

/-- A job of subgraph count 1 with grid id 1 and QoS 1. -/
def jobB : Job := ⟨2, 1, 0, 1, 1, 0x2000, 21⟩

/-- A job of subgraph count 1 with grid id 2 and QoS 1. -/
def jobC : Job := ⟨3, 2, 0, 1, 1, 0x3000, 21⟩

end AipuUmd
