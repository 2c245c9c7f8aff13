import AipuUmd.Platform.Fit
import AipuUmd.Job.Unwind

/-!
# Group ids and the whole life of a job on the simulator

The job model logs its `get_start_group_id` and `put_start_group_id` calls; the process
serves them on the simulator's `m_group_id_bitmap`. Two runs follow from it:

* `Process.failed_init_destroy_clears`: a job whose `init` fails after the grant gives its
  ids back while unwinding, and its `destroy` gives them back again, clearing the bits in
  the bitmap as it is then, whoever holds them;
* `Process.job_lifecycle`: a job created on a fresh process, whose `init` succeeds, is
  initialized, scheduled and polled until DONE, and destroyed; the bitmap is clear again
  and the simulator holds nothing of it.
-/

namespace AipuUmd

namespace SimulatorV3_1

/-! ## The bitmap -/

/-- Bit `j` after the release: clear when it lies in `[lo, lo + count)`, as before
otherwise. -/
theorem getElem?_releaseRun (lo count : Nat) :
    ∀ (k : Nat) (bs : List Bool) (j : Nat),
      (releaseRun lo count k bs)[j]? = bs[j]?.map (· && !decide (lo ≤ j + k ∧ j + k < lo + count))
  | _, [], _ => rfl
  | k, _ :: _, 0 => by simp [releaseRun]
  | k, _ :: rest, j + 1 => by
    simp only [releaseRun, List.getElem?_cons_succ, getElem?_releaseRun lo count (k + 1) rest j]
    rw [show j + (k + 1) = j + 1 + k by omega]

/-- Releasing a run just claimed leaves the bitmap as releasing it would have. -/
theorem releaseRun_claimRun (lo count : Nat) :
    ∀ (k : Nat) (bs : List Bool), releaseRun lo count k (claimRun lo count k bs) = releaseRun lo count k bs
  | _, [] => rfl
  | k, b :: rest => by
    simp only [claimRun, releaseRun, releaseRun_claimRun lo count (k + 1) rest]
    by_cases inRun : lo ≤ k ∧ k < lo + count <;> simp [inRun]

theorem releaseRun_replicate_false (lo count : Nat) :
    ∀ (k n : Nat), releaseRun lo count k (List.replicate n false) = List.replicate n false
  | _, 0 => rfl
  | k, n + 1 => by
    simp only [List.replicate_succ, releaseRun, Bool.false_and, releaseRun_replicate_false lo count (k + 1) n]

/-- On a clear bitmap, a request for fewer ids than it holds is granted from 0. -/
theorem getStartGroupId_clear {n count : Nat} (pos : 0 < count) (fits : count < n) :
    getStartGroupId (List.replicate n false) count =
      (claimRun 0 count 0 (List.replicate n false), some 0, 0) := by
  rcases getStartGroupId_cases (List.replicate n false) pos with ⟨full, -⟩ | ⟨i, -, -, before, eq⟩
  · have := full 0 le_rfl (by simp only [List.length_replicate]; omega)
    simp [List.getElem?_replicate, show 0 < n by omega] at this
  · have first : i = 0 := by
      refine Nat.eq_zero_of_not_pos fun pos => ?_
      have := before 0 le_rfl (by omega)
      simp [List.getElem?_replicate, show 0 < n by omega] at this
    subst first
    rw [eq, if_neg (by simp only [List.length_replicate]; omega)]

/-- A grant of `s` is answered to the job as `s`. -/
theorem groupAnswer_of_granted {bitmap : List Bool} {count s : Nat}
    (granted : (getStartGroupId bitmap count).2.1 = some s) (start : Nat) :
    groupAnswer bitmap count start = some s := by
  obtain ⟨-, -, written, -⟩ := getStartGroupId_written rfl granted
  simp [groupAnswer, written, granted]

end SimulatorV3_1

open SimulatorV3_1

/-! ## A failed `init` and its `destroy` -/

section FailedInit

variable {P : Process} {i : Nat} {p : ProcJob}

/-- On the simulator, a job without BSS whose first allocation after the grant of `s` is
refused gives `[s, s + n)` back while `init` unwinds; its `destroy`, whenever it comes,
clears the run again in the bitmap as the process then holds it, so that ids granted to
another job in between are freed under that job. -/
theorem Process.failed_init_destroy_clears (at_i : P.jobs[i]? = some p) (fresh : p.initCalled = false)
    (alive : p.destroyed = false) (noRecords : p.job.sgJob = []) (noBss : p.job.graph.bss = [])
    (checked : p.job.graph.dynamicShape → p.job.dynShapeSet) (refuses : P.mem.RefusesNext)
    (hasSubgraphs : p.job.graph.subgraphCnt ≠ 0) {s : Nat}
    (granted : (getStartGroupId P.bitmap p.job.graph.subgraphCnt).2.1 = some s) :
    ∃ P₁ q, P.initJob i = some P₁ ∧ P₁.jobs[i]? = some q ∧ q.status = p.status ∧
      P₁.groupLog = P.groupLog ++ [.get s p.job.graph.subgraphCnt, .put s p.job.graph.subgraphCnt] ∧
      P₁.bitmap = putStartGroupId (claimRun s p.job.graph.subgraphCnt 0 P.bitmap) s p.job.graph.subgraphCnt ∧
      ∀ Q : Process, Q.jobs[i]? = some q → ∃ Q', Q.destroyJob i = some Q' ∧
        Q'.groupLog = Q.groupLog ++ [.put s p.job.graph.subgraphCnt] ∧
        Q'.bitmap = putStartGroupId Q.bitmap s p.job.graph.subgraphCnt := by
  obtain ⟨-, -, -, claimed⟩ := getStartGroupId_written rfl granted
  obtain ⟨j, init, log, sg, graph, start, count⟩ :=
    (P.attach p.job [some s]).init_of_refused_no_bss noBss noRecords checked refuses rfl hasSubgraphs
  rw [← groupAnswer_of_granted granted p.job.startGroupId] at init
  refine ⟨_, _, Process.initJob_eq at_i fresh alive checked init, getElem?_set_of_some at_i,
    rfl, log, ?_, fun Q at_q => ?_⟩
  · show (P.detach _ j).bitmap = _
    rw [Process.detach_bitmap log, claimed]
    rfl
  obtain ⟨j', destroyed, log', -⟩ :=
    (Q.attach j []).freeJobBuffers_of_no_bss sg (by rw [show (Q.attach j []).graph = _ from graph]; exact noBss)
  have log'' : j'.dev.groupLog = Q.groupLog ++ [.put s p.job.graph.subgraphCnt] := by
    rw [log', show (Q.attach j []).startGroupId = s from start, show (Q.attach j []).sgCnt = _ from count]
    rfl
  exact ⟨_, Process.destroyJob_eq at_q alive destroyed, log'', Process.detach_bitmap log''⟩

/-- Job 0 has no BSS and its first allocation is refused; job 1 is then granted group
id 0, `destroy` of job 0 clears bit 0 under it, and job 2 is granted group id 0 as well. -/
def sharedGroupCalls : List ProcAction :=
  [.create noBssGraph true [] false [] ⟨0, 1, 0x1000, 4096⟩, .init 0,
    .create oneBssGraph true [] false [] ⟨0, 1, 0x2000, 4096⟩, .init 1, .destroy 0,
    .create oneBssGraph true [] false [] ⟨0, 1, 0x3000, 4096⟩, .init 2]

theorem failed_init_destroy_clears_shared :
    ∃ (P : Process) (p : ProcJob), (Process.start 0 4 0 (.withOutcomes [false])).run ⟨0, 1, 0⟩
        (sharedGroupCalls.take 1) = some P ∧ P.jobs[0]? = some p ∧
      p.initCalled = false ∧ p.destroyed = false ∧ p.job.sgJob = [] ∧ p.job.graph.bss = [] ∧
      (p.job.graph.dynamicShape → p.job.dynShapeSet) ∧ P.mem.RefusesNext ∧
      p.job.graph.subgraphCnt ≠ 0 ∧ (getStartGroupId P.bitmap p.job.graph.subgraphCnt).2.1 = some 0 ∧
      (∃ P₁ q, P.initJob 0 = some P₁ ∧ P₁.jobs[0]? = some q ∧ q.status = p.status ∧
        P₁.groupLog = P.groupLog ++ [.get 0 p.job.graph.subgraphCnt, .put 0 p.job.graph.subgraphCnt] ∧
        P₁.bitmap = putStartGroupId (claimRun 0 p.job.graph.subgraphCnt 0 P.bitmap) 0 p.job.graph.subgraphCnt ∧
        ∀ Q : Process, Q.jobs[0]? = some q → ∃ Q', Q.destroyJob 0 = some Q' ∧
          Q'.groupLog = Q.groupLog ++ [.put 0 p.job.graph.subgraphCnt] ∧
          Q'.bitmap = putStartGroupId Q.bitmap 0 p.job.graph.subgraphCnt) ∧
      ∃ (R : Process) (b c : ProcJob), (Process.start 0 4 0 (.withOutcomes [false])).run ⟨0, 1, 0⟩
          sharedGroupCalls = some R ∧ R.jobs[1]? = some b ∧ R.jobs[2]? = some c ∧
        b.status = .init ∧ c.status = .init ∧ b.destroyed = false ∧ c.destroyed = false ∧
        b.job.startGroupId = 0 ∧ c.job.startGroupId = 0 := by
  obtain ⟨P, run, p, at_0, fresh, alive, noRecords, noBss, checked, refuses, hasSubgraphs, granted⟩ :
      ∃ P : Process, (Process.start 0 4 0 (.withOutcomes [false])).run ⟨0, 1, 0⟩
        (sharedGroupCalls.take 1) = some P ∧ ∃ p : ProcJob, P.jobs[0]? = some p ∧
        p.initCalled = false ∧ p.destroyed = false ∧ p.job.sgJob = [] ∧ p.job.graph.bss = [] ∧
        (p.job.graph.dynamicShape → p.job.dynShapeSet) ∧ P.mem.outcomes.head? = some false ∧
        p.job.graph.subgraphCnt ≠ 0 ∧ (getStartGroupId P.bitmap p.job.graph.subgraphCnt).2.1 = some 0 :=
    ⟨_, rfl, _, rfl, by decide⟩
  obtain ⟨R, runR, b, c, at_1, at_2, shared⟩ :
      ∃ R : Process, (Process.start 0 4 0 (.withOutcomes [false])).run ⟨0, 1, 0⟩ sharedGroupCalls = some R ∧
        ∃ b c : ProcJob, R.jobs[1]? = some b ∧ R.jobs[2]? = some c ∧
        b.status = .init ∧ c.status = .init ∧ b.destroyed = false ∧ c.destroyed = false ∧
        b.job.startGroupId = 0 ∧ c.job.startGroupId = 0 :=
    ⟨_, rfl, _, _, rfl, rfl, by decide⟩
  exact ⟨P, p, run, at_0, fresh, alive, noRecords, noBss, checked, refuses, hasSubgraphs, granted,
    Process.failed_init_destroy_clears at_0 fresh alive noRecords noBss checked refuses hasSubgraphs granted,
    R, b, c, runR, at_1, at_2, shared⟩

end FailedInit

/-! ## The life of a job -/

/-- An `init` that succeeds passed the shape check. -/
theorem JobV3_1.init_success_checked {j j' : JobV3_1} (ok : j.init = .ok (j', .success)) :
    j.graph.dynamicShape → j.dynShapeSet := fun dyn => by
  by_contra unset
  rw [JobV3_1.init, if_pos ⟨dyn, by simpa using unset⟩] at ok
  cases ok

/-- What a loaded job holds does not depend on the memory manager and device it is
attached to. -/
theorem JobV3_1.Loaded.attach {j : JobV3_1} (loaded : j.Loaded) (P : Process) (answers : List (Option Nat)) :
    (P.attach j answers).Loaded :=
  { loaded with toBuffered := { loaded.toBuffered with } }

section Lifecycle

variable {k : SimConsts} {mode maxGroupId : Nat} {mem : MemMgr} {graph : Graph} {fm : Bool}
  {fmIdxes : List Nat} {dynShapeSet : Bool} {configShape : List Bool} {cfg : DescCfg} {regVal : Nat}
  {j : JobV3_1}

/-- A fresh process creates a job whose `init` succeeds when granted group ids from 0,
initializes it, schedules it on the idle simulator, which dispatches it at once, and calls
`poll_status` for it. -/
theorem Process.run_until_poll (base : UInt16) (pick : Nat)
    (ok : (JobV3_1.create graph fm fmIdxes dynShapeSet configShape mem ⟨[some 0], []⟩).init = .ok (j, .success))
    (hasSubgraphs : graph.subgraphCnt ≠ 0) (fits : graph.subgraphCnt < maxGroupId) (text : cfg.textSize ≠ 0)
    (free : isCmdpoolFull k cfg.qos (clampPart k cfg.partId) mode 0 regVal = false) :
    ∃ (P : Process) (q : ProcJob), (Process.start mode maxGroupId base mem).run k
        [.create graph fm fmIdxes dynShapeSet configShape cfg, .init 0, .schedule 0 regVal pick, .pollCall 0] =
        some P ∧
      P.ReachInOrder k base ∧ P.draws = 1 ∧ P.jobs = [q] ∧ q.job = j ∧ q.status = .sched ∧
      q.destroyed = false ∧ q.cfg = cfg ∧ P.sys.pollers = [⟨q.desc 0, .checkDone⟩] ∧
      P.sys.sim.bufferQueue = [] ∧ P.bitmap = claimRun 0 graph.subgraphCnt 0 (List.replicate maxGroupId false) ∧
      P.groupLog = [.get 0 graph.subgraphCnt] := by
  obtain ⟨-, -, created⟩ := JobV3_1.init_loaded ok
  have granted := created.granted
  rw [Device.getStartGroupId_answer _ _ hasSubgraphs] at granted
  have devLog : j.dev.groupLog = [.get 0 graph.subgraphCnt] := by rw [← (Prod.mk.inj granted).1]; rfl
  have sgCnt : j.sgCnt ≠ 0 := by rw [created.sgCnt]; exact hasSubgraphs
  have checked : graph.dynamicShape → dynShapeSet := JobV3_1.init_success_checked ok
  -- `create`, then `init` with the simulator's grant of `[0, n)`
  let P₁ := (Process.start mode maxGroupId base mem).create graph fm fmIdxes dynShapeSet configShape cfg
  let p₁ : ProcJob := ⟨JobV3_1.create graph fm fmIdxes dynShapeSet configShape mem ⟨[], []⟩, cfg, none,
    .noStatus, false, false⟩
  have grant : getStartGroupId P₁.bitmap p₁.job.graph.subgraphCnt =
      (claimRun 0 graph.subgraphCnt 0 (List.replicate maxGroupId false), some 0, 0) :=
    getStartGroupId_clear (Nat.pos_of_ne_zero hasSubgraphs) fits
  have ok₁ : (P₁.attach p₁.job [groupAnswer P₁.bitmap p₁.job.graph.subgraphCnt p₁.job.startGroupId]).init =
      .ok (j, .success) := by rw [groupAnswer_of_granted (by rw [grant]) _]; exact ok
  obtain ⟨P₂, init, jobs₂, sys₂, draws₂, bitmap₂, log₂⟩ : ∃ P₂ : Process, P₁.initJob 0 = some P₂ ∧
      P₂.jobs = [{ p₁ with job := j, gridId := some base, initCalled := true, status := .init }] ∧
      P₂.sys = Sys.init mode ∧ P₂.draws = 1 ∧
      P₂.bitmap = claimRun 0 graph.subgraphCnt 0 (List.replicate maxGroupId false) ∧
      P₂.groupLog = [.get 0 graph.subgraphCnt] := by
    refine ⟨_, Process.initJob_eq (p := p₁) rfl rfl rfl checked ok₁, rfl, rfl, rfl, ?_, devLog⟩
    show (P₁.detach _ j).bitmap = _
    rw [Process.detach_bitmap (show j.dev.groupLog = P₁.groupLog ++ [.get 0 graph.subgraphCnt] by
      rw [devLog]; rfl), grant]
    rfl
  -- `schedule`: the idle simulator dispatches the job at once
  set q₂ : ProcJob := { p₁ with job := j, gridId := some base, initCalled := true, status := .init }
  have at₂ : P₂.jobs[0]? = some q₂ := by rw [jobs₂]; rfl
  have sched : P₂.scheduleJob k 0 regVal pick = _ := Process.scheduleJob_eq at₂ rfl rfl sgCnt text
  set P₃ := { P₂.setJob 0 { q₂ with status := .sched } with
    sys := { P₂.sys with
      sim := P₂.sys.sim.schedule k (q₂.desc 0) regVal pick
      scheduled := P₂.sys.scheduled ++ [q₂.desc 0]
      pending := P₂.sys.pending ++ [q₂.desc 0] } }
  have at₃ : P₃.jobs[0]? = some { q₂ with status := .sched } := by
    show (P₂.jobs.set 0 _)[0]? = _
    rw [jobs₂]; rfl
  -- `poll_status`
  have notZero : ({ q₂ with status := .sched } : ProcJob).job.sgCnt ≠ 0 := sgCnt
  have poll := Process.pollCall_eq (k := k) at₃ rfl
  rw [if_neg notZero] at poll
  have front : (Process.start mode maxGroupId base mem).run k
      [.create graph fm fmIdxes dynShapeSet configShape cfg, .init 0, .schedule 0 regVal pick, .pollCall 0] =
      P₃.pollCall k 0 := by
    show (P₁.initJob 0).bind _ = _
    rw [init, Option.some_bind]
    show (P₂.scheduleJob k 0 regVal pick).bind _ = _
    rw [sched, Option.some_bind]
    exact Option.bind_some _
  rw [poll] at front
  refine ⟨_, { q₂ with status := .sched }, front, ?_, draws₂, ?_, rfl, rfl, rfl, rfl, ?_, ?_, bitmap₂, log₂⟩
  · have inOrder : P₂.InOrder k (.schedule 0 regVal pick) := fun _ _ _ _ => by rw [sys₂]; rfl
    exact .step (.pollCall 0) (.step (.schedule 0 regVal pick) (.step (.init 0)
      (.step (.create graph fm fmIdxes dynShapeSet configShape cfg) (.start mode maxGroupId mem) trivial rfl)
      trivial init) inOrder sched) trivial poll
  · show P₂.jobs.set 0 _ = _
    rw [jobs₂]; rfl
  · show P₂.sys.pollers ++ [Poller.start _] = _
    rw [sys₂]
    simp only [Sys.init, List.nil_append, Poller.start, ProcJob.desc, sgCnt, if_false]
  · show (P₂.sys.sim.schedule k _ regVal pick).bufferQueue = []
    rw [sys₂]
    simp only [Sys.init, Sim.init, Sim.schedule, Bool.false_or, ProcJob.desc, free, Bool.false_eq_true,
      if_false, pushPop, Sim.dispatch]

/-- A job of a graph with subgraphs and a text section, whose `init` succeeds when granted
group ids from 0, created on a fresh process: after `init`, `schedule` and a
`poll_status` call, steps of the call and `GRID_END`s of the engine, finitely many, bring
it to DONE, and `destroy` succeeds. The device then saw one `get` and one `put` of
`[0, n)`, the bitmap is clear again, and the simulator holds nothing of the job. -/
theorem Process.job_lifecycle (base : UInt16) (pick : Nat)
    (ok : (JobV3_1.create graph fm fmIdxes dynShapeSet configShape mem ⟨[some 0], []⟩).init = .ok (j, .success))
    (hasSubgraphs : graph.subgraphCnt ≠ 0) (fits : graph.subgraphCnt < maxGroupId) (text : cfg.textSize ≠ 0)
    (free : isCmdpoolFull k cfg.qos (clampPart k cfg.partId) mode 0 regVal = false) :
    ∃ (calls : List ProcAction) (P : Process), (Process.start mode maxGroupId base mem).run k
        ([.create graph fm fmIdxes dynShapeSet configShape cfg, .init 0, .schedule 0 regVal pick, .pollCall 0] ++
          calls ++ [.destroy 0]) = some P ∧
      (∀ a ∈ calls, (∃ regVal pick, a = .poll 0 regVal pick) ∨ ∃ job, a = .gridEnd job) ∧
      (∃ q : ProcJob, P.jobs[0]? = some q ∧ q.status = .done ∧ q.destroyed = true) ∧
      P.groupLog = [.get 0 graph.subgraphCnt, .put 0 graph.subgraphCnt] ∧
      P.bitmap = List.replicate maxGroupId false ∧ P.sys.pending = [] := by
  obtain ⟨loaded, -, created⟩ := JobV3_1.init_loaded ok
  have start : j.startGroupId = 0 := (Option.some.inj (Prod.mk.inj
    ((Device.getStartGroupId_answer (some 0) [] hasSubgraphs 0).symm.trans created.granted)).2).symm
  obtain ⟨P₄, q, front, reach, draws, jobs, job, sched, alive, cfgEq, pollers, queue, bitmap, log⟩ :=
    Process.run_until_poll base pick ok hasSubgraphs fits text free
  -- the call returns with the job DONE
  have at₄ : P₄.jobs[0]? = some q := by rw [jobs]; rfl
  have inv := (reach.fit (by omega)).1.callInv at₄ sched (cfgEq ▸ text) (by rw [pollers]; rfl)
    (Sys.alone_of_single pollers) (by rw [queue]; exact List.not_mem_nil _)
  obtain ⟨acc, progress⟩ := Process.CallPhase.returns inv at₄
  obtain ⟨Q, run, q', at_q', done⟩ := exists_goal_of_acc acc progress
  have frame := Process.CallPhase.statusOnly_run run
  obtain ⟨st, at_q⟩ := frame.jobs 0 q at₄
  obtain rfl : q' = { q with status := st } := Option.some.inj (at_q'.symm.trans at_q)
  obtain ⟨calls, ran, shape⟩ := Process.CallPhase.actions run
  -- `destroy` puts `[0, n)` back
  obtain ⟨j', destroyed, dev'⟩ := (job ▸ loaded).attach Q [] |>.destroy_ok
  have log' : j'.dev.groupLog = Q.groupLog ++ [.put 0 graph.subgraphCnt] := by
    rw [dev']
    show Q.groupLog ++ [.put q.job.startGroupId q.job.sgCnt] = _
    rw [job, start, created.sgCnt]
  have fitQ := ((reach.callPhase run).fit (by rw [frame.draws, draws]; omega)).1
  have whole : (Process.start mode maxGroupId base mem).run k
      ([.create graph fm fmIdxes dynShapeSet configShape cfg, .init 0, .schedule 0 regVal pick, .pollCall 0] ++
        calls ++ [.destroy 0]) = Q.destroyJob 0 := by
    rw [Process.run_append, Process.run_append, front, Option.some_bind, ran, Option.some_bind]
    exact Option.bind_some _
  rw [Process.destroyJob_eq at_q alive destroyed] at whole
  refine ⟨calls, _, whole, shape, ⟨_, getElem?_set_of_some at_q, done, rfl⟩, log'.trans ?_, ?_, ?_⟩
  · rw [frame.groupLog, log]; rfl
  · show (Q.detach Q.bitmap j').bitmap = _
    rw [Process.detach_bitmap log', frame.bitmap, bitmap]
    exact (releaseRun_claimRun 0 _ 0 _).trans (releaseRun_replicate_false 0 _ 0 _)
  · refine List.eq_nil_iff_forall_not_mem.mpr fun d pending => ?_
    obtain ⟨p, at_d, sched', -⟩ := fitQ.pending d pending
    have only : d.id < 1 := by
      have inside := (List.getElem?_eq_some_iff.mp at_d).1
      rwa [frame.length, jobs] at inside
    rw [show d.id = 0 by omega, at_q] at at_d
    cases at_d
    exact absurd (done.symm.trans sched') (by decide)

end Lifecycle

theorem job_lifecycle_e3 :
    ∃ j, (JobV3_1.create e3Graph true [] false [] .fresh ⟨[some 0], []⟩).init = .ok (j, .success) ∧
      e3Graph.subgraphCnt ≠ 0 ∧ e3Graph.subgraphCnt < 16 ∧ (⟨0, 1, 0x1000, 4096⟩ : DescCfg).textSize ≠ 0 ∧
      isCmdpoolFull ⟨0, 1, 0⟩ 1 (clampPart ⟨0, 1, 0⟩ 0) 0 0 0 = false ∧
      ∃ (calls : List ProcAction) (P : Process), (Process.start 0 16 0 .fresh).run ⟨0, 1, 0⟩
          ([.create e3Graph true [] false [] ⟨0, 1, 0x1000, 4096⟩, .init 0, .schedule 0 0 0, .pollCall 0] ++
            calls ++ [.destroy 0]) = some P ∧
        (∀ a ∈ calls, (∃ regVal pick, a = .poll 0 regVal pick) ∨ ∃ job, a = .gridEnd job) ∧
        (∃ q : ProcJob, P.jobs[0]? = some q ∧ q.status = .done ∧ q.destroyed = true) ∧
        P.groupLog = [.get 0 e3Graph.subgraphCnt, .put 0 e3Graph.subgraphCnt] ∧
        P.bitmap = List.replicate 16 false ∧ P.sys.pending = [] := by
  obtain ⟨j, ok⟩ : ∃ j, (JobV3_1.create e3Graph true [] false [] .fresh ⟨[some 0], []⟩).init =
      .ok (j, .success) := ⟨_, rfl⟩
  exact ⟨j, ok, by decide, by decide, by decide, rfl,
    Process.job_lifecycle 0 0 ok (by decide) (by decide) (by decide) rfl⟩

end AipuUmd
