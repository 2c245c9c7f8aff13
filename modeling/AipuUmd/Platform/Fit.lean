import AipuUmd.Platform.Process

/-!
# Grid ids of a process, and when its `poll_status` calls return

`JobV3_1::init` draws the job's grid id from the simulator's 16-bit counter, so the
first `2^16` draws are pairwise distinct. `validate_schedule_status` refuses a job that
is SCHED, and a job stays SCHED from its `schedule` until the `poll_status` call that
reports it DONE. So a process that has drawn at most `2^16` grid ids never hands the
simulator a grid id that a pending job holds: the first half of what `FitStep` asks
of a `schedule` call. The second half, that `schedule` does not find the simulator
idle with the job's pool free while jobs are queued, is a `TSM_STATUS` reading the
process cannot choose, and `Process.InOrder` assumes it.

* `Process.GridsFit`: the invariant. Grid ids are drawn ones and held by one job each,
  and the simulator's pending jobs are exactly the descriptors of the SCHED jobs that
  have a text section.
* `Process.ReachInOrder.fit`: every run of the process with in-order readings and at most
  `2^16` draws keeps it, and its simulator part is a run of fitting steps.
* `Process.poll_returns_done`: in such a process, a `poll_status` call for a SCHED job
  with a text section that has left the queue, made while no other call is in flight,
  returns with the job DONE: no run of its steps and of `GRID_END` callbacks is
  infinite, and until the job is DONE one of them can be taken.
-/

namespace AipuUmd

/-! ## Lists by index -/

section Lists

variable {α : Type} {l : List α} {i j : Nat} {p q r : α}

theorem getElem?_set_eq_some (at_j : (l.set i q)[j]? = some r) :
    (j = i ∧ r = q) ∨ (j ≠ i ∧ l[j]? = some r) := by
  by_cases same : j = i
  · subst same
    rw [List.getElem?_set_self'] at at_j
    obtain ⟨_, -, rfl⟩ := Option.map_eq_some'.mp at_j
    exact .inl ⟨rfl, rfl⟩
  · rw [List.getElem?_set_ne (Ne.symm same)] at at_j
    exact .inr ⟨same, at_j⟩

theorem getElem?_set_of_ne (at_j : l[j]? = some r) (differ : j ≠ i) : (l.set i q)[j]? = some r := by
  rw [List.getElem?_set_ne (Ne.symm differ), at_j]

theorem getElem?_set_of_some (at_i : l[i]? = some p) : (l.set i q)[i]? = some q :=
  List.getElem?_set_eq_of_lt q (List.getElem?_eq_some_iff.mp at_i).1

theorem getElem?_concat_eq_some {x : α} (at_j : (l ++ [x])[j]? = some r) :
    l[j]? = some r ∨ (j = l.length ∧ r = x) := by
  rcases Nat.lt_or_ge j l.length with lt | ge
  · rw [List.getElem?_append_left lt] at at_j
    exact .inl at_j
  · rw [List.getElem?_append_right ge] at at_j
    obtain ⟨lt, rfl⟩ := List.getElem?_eq_some_iff.mp at_j
    simp only [List.length_singleton, Nat.lt_one_iff] at lt
    exact .inr ⟨by omega, by simp [lt]⟩

theorem getElem?_concat_of_some {x : α} (at_j : l[j]? = some r) : (l ++ [x])[j]? = some r := by
  rw [List.getElem?_append_left (List.getElem?_eq_some_iff.mp at_j).1, at_j]

theorem modify_of_getElem? (f : α → α) (at_i : l[i]? = some p) : l.modify f i = l.set i (f p) := by
  rw [List.modify_eq_set_get?, List.get?_eq_getElem?, at_i]
  rfl

end Lists

/-! ## What `destroy` keeps -/

/-- A loop of steps that each keep `c` keeps `c`. -/
theorem foldlM_keeps {α β γ : Type} {f : α → β → Except Fault α} (c : α → γ)
    (step : ∀ a b a', f a b = .ok a' → c a' = c a) :
    ∀ (l : List β) (a a' : α), l.foldlM f a = .ok a' → c a' = c a
  | [], _, _, done => by cases done; rfl
  | b :: l, a, a', done => by
    rw [List.foldlM_cons] at done
    obtain ⟨a₁, first, rest⟩ := bind_eq_ok.mp done
    rw [foldlM_keeps c step l a₁ a' rest, step a b a₁ first]

/-- The subgraph and task counts, which `m_tot_tcb_cnt` is computed from. -/
def JobV3_1.counts (j : JobV3_1) : Nat × Nat := (j.sgCnt, j.taskPerSg)

theorem JobV3_1.freeTasks_counts {j j' : JobV3_1} {idx : Nat} (done : j.freeTasks idx = .ok j') :
    j'.counts = j.counts := by
  unfold JobV3_1.freeTasks at done
  dsimp only at done
  split at done
  · cases done
  · cases done
    rfl

theorem JobV3_1.freeSgStep_counts {j j' : JobV3_1} {i : Nat} (done : j.freeSgStep i = .ok j') :
    j'.counts = j.counts := by
  obtain ⟨k, freed, ⟨⟩⟩ := bind_eq_ok.mp done
  obtain ⟨k', loop, ⟨⟩⟩ := bind_eq_ok.mp freed
  show k'.counts = j.counts
  rw [foldlM_keeps JobV3_1.counts (fun _ _ _ => JobV3_1.freeTasks_counts) _ _ _ loop]
  dsimp only [JobV3_1.counts, JobV3_1.modifySgTask]
  split <;> rfl

theorem JobV3_1.freeBss_counts {j j' : JobV3_1} {idx : Nat} (done : j.freeBss idx = .ok j') :
    j'.counts = j.counts := by
  unfold JobV3_1.freeBss at done
  split at done
  · cases done
  · cases done
    dsimp only [JobV3_1.counts]
    split <;> rfl

/-- `destroy` keeps the job's subgraph and task counts. -/
theorem JobV3_1.destroy_counts {j j' : JobV3_1} (done : j.destroy = .ok j') : j'.counts = j.counts := by
  rw [JobV3_1.destroy, JobV3_1.freeJobBuffers_eq] at done
  obtain ⟨k, subgraphs, done⟩ := bind_eq_ok.mp done
  obtain ⟨k', bss, ⟨⟩⟩ := bind_eq_ok.mp done
  calc JobV3_1.counts _ = k'.counts := rfl
    _ = k.counts := foldlM_keeps _ (fun _ _ _ => JobV3_1.freeBss_counts) _ _ _ bss
    _ = j.freeJobWide.counts := foldlM_keeps _ (fun _ _ _ => JobV3_1.freeSgStep_counts) _ _ _ subgraphs
    _ = j.counts := rfl

/-- The descriptor reads the job's counts, not its buffers. -/
theorem ProcJob.desc_of_counts {p q : ProcJob} (id : Nat) (counts : q.job.counts = p.job.counts)
    (gridId : q.gridId = p.gridId) (cfg : q.cfg = p.cfg) : q.desc id = p.desc id := by
  simp only [JobV3_1.counts, Prod.mk.injEq] at counts
  simp only [ProcJob.desc, JobV3_1.totTcbCnt, counts, gridId, cfg]

/-! ## The invariant -/

/-- A `schedule` action that reaches the simulator does not find it idle with the job's
pool free while jobs are queued. -/
def Process.InOrder (k : SimConsts) (P : Process) : ProcAction → Prop
  | .schedule i regVal _ => ∀ p ∈ P.jobs[i]?, P.sys.sim.cantAddJobFlag = false →
      isCmdpoolFull k (p.desc i).qos (clampPart k (p.desc i).partId) P.sys.sim.partitionMode 0 regVal =
        false → P.sys.sim.bufferQueue = []
  | _ => True

instance Process.inOrderDecidable (k : SimConsts) (P : Process) : (a : ProcAction) → Decidable (P.InOrder k a)
  | .schedule i _ _ => inferInstanceAs (Decidable (∀ p ∈ P.jobs[i]?, _))
  | .create .. | .init _ | .gridEnd _ | .pollCall _ | .poll .. | .destroy _ => isTrue trivial

/-- The processes reached from a fresh one, whose counter started at `base`, by actions
whose readings are in order. -/
inductive Process.ReachInOrder (k : SimConsts) (base : UInt16) : Process → Prop
  | start (mode maxGroupId : Nat) (mem : MemMgr) :
    Process.ReachInOrder k base (Process.start mode maxGroupId base mem)
  | step {P P' : Process} (a : ProcAction) (reach : Process.ReachInOrder k base P)
    (inOrder : P.InOrder k a) (done : P.act k a = some P') : Process.ReachInOrder k base P'

/-- The actions performed in order while each is in order, `none` as soon as one is not
performed or not in order. -/
def Process.runInOrder (k : SimConsts) : List ProcAction → Process → Option Process
  | [], P => some P
  | a :: acts, P => if P.InOrder k a then (P.act k a).bind (Process.runInOrder k acts) else none

theorem Process.ReachInOrder.runInOrder {k : SimConsts} {base : UInt16} {P P' : Process}
    (reach : P.ReachInOrder k base) {acts : List ProcAction} (done : P.runInOrder k acts = some P') :
    P'.ReachInOrder k base := by
  induction acts generalizing P with
  | nil => cases done; exact reach
  | cons a acts ih =>
    simp only [Process.runInOrder] at done
    split at done
    · obtain ⟨Q, first, rest⟩ := Option.bind_eq_some.mp done
      exact ih (.step a reach ‹_› first) rest
    · cases done

/-- The grid-id accounting of a process whose counter started at `base`: the counter
moved once per draw, every grid id held was drawn and is held by one job, a job without
one has counted no subgraph, and a job not yet initialized has none. -/
structure Process.Draws (base : UInt16) (P : Process) : Prop where
  counter : P.gridCounter.toNat = (base.toNat + P.draws) % 2 ^ 16
  drawn : ∀ (i : Nat) (p : ProcJob) (g : UInt16), P.jobs[i]? = some p → p.gridId = some g →
    ∃ n < P.draws, g.toNat = (base.toNat + n) % 2 ^ 16
  distinct : ∀ (i i' : Nat) (p p' : ProcJob) (g : UInt16), P.jobs[i]? = some p → P.jobs[i']? = some p' →
    p.gridId = some g → p'.gridId = some g → i = i'
  undrawn : ∀ (i : Nat) (p : ProcJob), P.jobs[i]? = some p → p.gridId = none → p.job.sgCnt = 0
  uncalled : ∀ (i : Nat) (p : ProcJob), P.jobs[i]? = some p → p.initCalled = false → p.gridId = none

/-- The invariant: the grid-id accounting, a SCHED job holds a grid id, and the
simulator's pending jobs are exactly the descriptors of the SCHED jobs with a text
section, on which the simulator's own invariant holds. -/
structure Process.GridsFit (base : UInt16) (P : Process) extends P.Draws base : Prop where
  unsched : ∀ (i : Nat) (p : ProcJob), P.jobs[i]? = some p → p.status = .sched → p.gridId ≠ none
  pending : ∀ d ∈ P.sys.pending, ∃ p : ProcJob, P.jobs[d.id]? = some p ∧ p.status = .sched ∧
    p.cfg.textSize ≠ 0 ∧ p.job.sgCnt ≠ 0 ∧ d = p.desc d.id
  sched : ∀ (i : Nat) (p : ProcJob), P.jobs[i]? = some p → p.status = .sched → p.cfg.textSize ≠ 0 →
    p.desc i ∈ P.sys.pending
  conserved : P.sys.sim.Conserved P.sys.pending

section Invariant

variable {k : SimConsts} {base : UInt16} {P P' : Process}

theorem Process.start_gridsFit (mode maxGroupId : Nat) (mem : MemMgr) :
    (Process.start mode maxGroupId base mem).GridsFit base where
  counter := by
    simp only [Process.start, Nat.add_zero]
    exact (Nat.mod_eq_of_lt base.toBitVec.isLt).symm
  drawn _ _ _ at_i := by simp [Process.start] at at_i
  distinct _ _ _ _ _ at_i := by simp [Process.start] at at_i
  undrawn _ _ at_i := by simp [Process.start] at at_i
  uncalled _ _ at_i := by simp [Process.start] at at_i
  unsched _ _ at_i := by simp [Process.start] at at_i
  pending _ mem := by simp [Process.start, Sys.init] at mem
  sched _ _ at_i := by simp [Process.start] at at_i
  conserved := Sim.init_conserved mode

/-- `(c + 1).toNat` for the 16-bit counter. -/
theorem UInt16.toNat_add_one (c : UInt16) : (c + 1).toNat = (c.toNat + 1) % 2 ^ 16 := by
  simp only [UInt16.toNat, UInt16.add_def, BitVec.toNat_add]
  rfl

/-- Replacing a job by one that holds the same grid id, has counted subgraphs only if
it holds one, and holds one once initialized, keeps the accounting. -/
theorem Process.Draws.set (d : P.Draws base) {i : Nat} {p q : ProcJob} (at_i : P.jobs[i]? = some p)
    (gridId : q.gridId = p.gridId) (undrawn : q.gridId = none → q.job.sgCnt = 0)
    (uncalled : q.initCalled = false → q.gridId = none) (jobs : P'.jobs = P.jobs.set i q)
    (draws : P'.draws = P.draws) (counter : P'.gridCounter = P.gridCounter) : P'.Draws base := by
  have back : ∀ (j : Nat) (r : ProcJob), P'.jobs[j]? = some r →
      ∃ r₀ : ProcJob, P.jobs[j]? = some r₀ ∧ r₀.gridId = r.gridId := by
    intro j r at_j
    rw [jobs] at at_j
    rcases getElem?_set_eq_some at_j with ⟨rfl, rfl⟩ | ⟨-, old⟩
    exacts [⟨p, at_i, gridId.symm⟩, ⟨r, old, rfl⟩]
  refine ⟨by rw [counter, draws]; exact d.counter, fun j r g at_j held => ?_,
    fun j j' r r' g at_j at_j' held held' => ?_, fun j r at_j none => ?_, fun j r at_j fresh => ?_⟩
  · obtain ⟨r₀, old, same⟩ := back j r at_j
    rw [draws]
    exact d.drawn j r₀ g old (same.trans held)
  · obtain ⟨r₀, old, same⟩ := back j r at_j
    obtain ⟨r₀', old', same'⟩ := back j' r' at_j'
    exact d.distinct j j' r₀ r₀' g old old' (same.trans held) (same'.trans held')
  · rw [jobs] at at_j
    rcases getElem?_set_eq_some at_j with ⟨-, rfl⟩ | ⟨-, old⟩
    exacts [undrawn none, d.undrawn j r old none]
  · rw [jobs] at at_j
    rcases getElem?_set_eq_some at_j with ⟨-, rfl⟩ | ⟨-, old⟩
    exacts [uncalled fresh, d.uncalled j r old fresh]

/-- The accounting reads only the jobs, the counter and the draws. -/
theorem Process.Draws.of_jobs (d : P.Draws base) (jobs : P'.jobs = P.jobs) (draws : P'.draws = P.draws)
    (counter : P'.gridCounter = P.gridCounter) : P'.Draws base := by
  obtain ⟨c, dr, di, u, uc⟩ := d
  exact ⟨by rw [counter, draws]; exact c, by rw [jobs, draws]; exact dr, by rw [jobs]; exact di,
    by rw [jobs]; exact u, by rw [jobs]; exact uc⟩

/-- Drawing the next grid id for a job that holds none keeps the accounting, while at
most `2^16` grid ids are drawn. -/
theorem Process.Draws.draw (d : P.Draws base) {i : Nat} {p q : ProcJob} (at_i : P.jobs[i]? = some p)
    (gridId : q.gridId = some P.gridCounter) (called : q.initCalled = true)
    (jobs : P'.jobs = P.jobs.set i q) (draws : P'.draws = P.draws + 1)
    (counter : P'.gridCounter = P.gridCounter + 1) (room : P'.draws ≤ 2 ^ 16) : P'.Draws base := by
  have base_lt := base.toBitVec.isLt
  have newest : ∀ (j : Nat) (r : ProcJob) (g : UInt16), P.jobs[j]? = some r → r.gridId = some g →
      g ≠ P.gridCounter := by
    intro j r g at_j held same
    obtain ⟨n, lt, eq⟩ := d.drawn j r g at_j held
    have := d.counter
    rw [same] at eq
    omega
  refine ⟨by rw [counter, draws, UInt16.toNat_add_one, d.counter]; omega, fun j r g at_j held => ?_,
    fun j j' r r' g at_j at_j' held held' => ?_, fun j r at_j none' => ?_, fun j r at_j fresh => ?_⟩
  · rw [draws]
    rw [jobs] at at_j
    rcases getElem?_set_eq_some at_j with ⟨-, rfl⟩ | ⟨-, old⟩
    · obtain rfl := Option.some.inj (held.symm.trans gridId)
      exact ⟨P.draws, Nat.lt_succ_self _, d.counter⟩
    · obtain ⟨n, lt, eq⟩ := d.drawn j r g old held
      exact ⟨n, by omega, eq⟩
  · rw [jobs] at at_j at_j'
    rcases getElem?_set_eq_some at_j with ⟨rfl, rfl⟩ | ⟨-, old⟩ <;>
      rcases getElem?_set_eq_some at_j' with ⟨rfl, rfl⟩ | ⟨-, old'⟩
    · rfl
    · exact absurd (Option.some.inj (held.symm.trans gridId)) (newest j' r' g old' held')
    · exact absurd (Option.some.inj (held'.symm.trans gridId)) (newest j r g old held)
    · exact d.distinct j j' r r' g old old' held held'
  · rw [jobs] at at_j
    rcases getElem?_set_eq_some at_j with ⟨-, rfl⟩ | ⟨-, old⟩
    · simp [gridId] at none'
    · exact d.undrawn j r old none'
  · rw [jobs] at at_j
    rcases getElem?_set_eq_some at_j with ⟨-, rfl⟩ | ⟨-, old⟩
    · simp [called] at fresh
    · exact d.uncalled j r old fresh

/-- A job not SCHED, with subgraphs, holds a grid id no pending job holds. -/
theorem Process.GridsFit.fresh (fit : P.GridsFit base) {i : Nat} {p : ProcJob} (at_i : P.jobs[i]? = some p)
    (notSched : p.status ≠ .sched) (hasSubgraphs : p.job.sgCnt ≠ 0) :
    ∀ d ∈ P.sys.pending, d.gridId ≠ (p.desc i).gridId := by
  intro d mem same
  obtain ⟨q, at_d, sched, -, sg, eq⟩ := fit.pending d mem
  obtain ⟨g, held⟩ := Option.ne_none_iff_exists'.mp fun none => hasSubgraphs (fit.undrawn i p at_i none)
  obtain ⟨g', held'⟩ := Option.ne_none_iff_exists'.mp fun none => sg (fit.undrawn _ q at_d none)
  rw [eq] at same
  simp only [ProcJob.desc, held, held', Option.getD_some] at same
  subst same
  have owner := fit.distinct _ i q p _ at_d at_i held' held
  rw [owner, at_i, Option.some.injEq] at at_d
  exact notSched (at_d ▸ sched)

/-- No pending descriptor belongs to a job that is not SCHED. -/
theorem Process.GridsFit.pending_ne (fit : P.GridsFit base) {i : Nat} {p : ProcJob}
    (at_i : P.jobs[i]? = some p) (notSched : p.status ≠ .sched) : ∀ d ∈ P.sys.pending, d.id ≠ i := by
  intro d mem owner
  obtain ⟨q, at_d, sched, -⟩ := fit.pending d mem
  rw [owner, at_i, Option.some.injEq] at at_d
  exact notSched (at_d ▸ sched)

/-- Replacing a job that no pending descriptor names by one that is not SCHED keeps the
invariant. -/
theorem Process.GridsFit.set_away (fit : P.GridsFit base) {i : Nat} {q : ProcJob}
    (away : ∀ d ∈ P.sys.pending, d.id ≠ i) (notSched : q.status ≠ .sched) (draws : P'.Draws base)
    (jobs : P'.jobs = P.jobs.set i q) (pending : P'.sys.pending = P.sys.pending)
    (conserved : P'.sys.sim.Conserved P'.sys.pending) : P'.GridsFit base := by
  have old : ∀ (j : Nat) (r : ProcJob), P'.jobs[j]? = some r → r.status = .sched → P.jobs[j]? = some r := by
    intro j r at_j sched
    rw [jobs] at at_j
    rcases getElem?_set_eq_some at_j with ⟨-, rfl⟩ | ⟨-, old⟩
    · exact absurd sched notSched
    · exact old
  refine ⟨draws, fun j r at_j sched => fit.unsched j r (old j r at_j sched) sched, fun d mem => ?_,
    fun j r at_j sched text => pending ▸ fit.sched j r (old j r at_j sched) sched text, conserved⟩
  rw [pending] at mem
  obtain ⟨r, at_d, rest⟩ := fit.pending d mem
  exact ⟨r, by rw [jobs]; exact getElem?_set_of_ne at_d (away d mem), rest⟩

end Invariant

/-! ## One lemma per action -/

theorem validateScheduleStatus_ne_sched {st : JobStatus} (ok : validateScheduleStatus st = .success) :
    st ≠ .sched := by
  rintro rfl
  exact absurd ok (by decide)

/-- A step of `poll_status` returns only from the `m_done_set` test, with its job done. -/
theorem Sim.pollStep_finished {k : SimConsts} {s s' : Sim} {p : Poller} {free : Bool} {regVal pick : Nat}
    (moves : s.pollStep k p free regVal pick = some (s', .finished)) : p.job ∈ s.doneSet := by
  obtain ⟨job, pc⟩ := p
  cases pc with
  | checkDone =>
    simp only [Sim.pollStep] at moves
    split at moves
    · assumption
    · cases moves
  | checkCommit =>
    simp only [Sim.pollStep] at moves
    split at moves
    · cases moves
    split at moves
    · split at moves <;> cases moves
    · cases moves
  | waiting =>
    simp only [Sim.pollStep] at moves
    split at moves <;> cases moves
  | drain => cases moves
  | finished => cases moves

section Steps

variable {k : SimConsts} {base : UInt16} {P P' : Process}

theorem Process.GridsFit.create (fit : P.GridsFit base) (graph : Graph) (fm : Bool) (fmIdxes : List Nat)
    (dynShapeSet : Bool) (configShape : List Bool) (cfg : DescCfg) :
    (P.create graph fm fmIdxes dynShapeSet configShape cfg).GridsFit base := by
  have back : ∀ (j : Nat) (r : ProcJob),
      (P.create graph fm fmIdxes dynShapeSet configShape cfg).jobs[j]? = some r →
      P.jobs[j]? = some r ∨ (r.gridId = none ∧ r.job.sgCnt = 0 ∧ r.status = .noStatus) :=
    fun j r at_j => (getElem?_concat_eq_some at_j).imp_right fun ⟨_, new⟩ => by
      subst new
      exact ⟨rfl, rfl, rfl⟩
  refine ⟨⟨fit.counter, fun j r g at_j held => ?_, fun j j' r r' g at_j at_j' held held' => ?_,
    fun j r at_j none => ?_, fun j r at_j fresh => ?_⟩, fun j r at_j sched => ?_,
    fun d mem => ?_, fun j r at_j sched text => ?_, fit.conserved⟩
  · rcases back j r at_j with old | ⟨none, -⟩
    · exact fit.drawn j r g old held
    · simp [none] at held
  · rcases back j r at_j with old | ⟨none, -⟩
    · rcases back j' r' at_j' with old' | ⟨none', -⟩
      · exact fit.distinct j j' r r' g old old' held held'
      · simp [none'] at held'
    · simp [none] at held
  · rcases back j r at_j with old | ⟨-, sg, -⟩
    · exact fit.undrawn j r old none
    · exact sg
  · rcases back j r at_j with old | ⟨none, -⟩
    · exact fit.uncalled j r old fresh
    · exact none
  · rcases back j r at_j with old | ⟨-, -, status⟩
    · exact fit.unsched j r old sched
    · simp [status] at sched
  · obtain ⟨r, at_d, rest⟩ := fit.pending d mem
    exact ⟨r, getElem?_concat_of_some at_d, rest⟩
  · rcases back j r at_j with old | ⟨-, -, status⟩
    · exact fit.sched j r old sched text
    · simp [status] at sched

theorem Process.GridsFit.initJob (fit : P.GridsFit base) {i : Nat} (done : P.initJob i = some P')
    (room : P'.draws ≤ 2 ^ 16) : P'.GridsFit base := by
  obtain ⟨p, at_i, fresh, -, cases⟩ := Process.initJob_cases done
  have none := fit.uncalled i p at_i fresh
  have away := fit.pending_ne at_i fun sched => fit.unsched i p at_i sched none
  rcases cases with ⟨-, rfl⟩ | ⟨j, st, -, rfl⟩
  · exact fit.set_away (q := { p with initCalled := true }) away (fun sched => fit.unsched i p at_i sched none)
      (fit.set (q := { p with initCalled := true }) at_i rfl (fun _ => fit.undrawn i p at_i none) nofun
        rfl rfl rfl) rfl rfl fit.conserved
  · refine fit.set_away away ?_ (fit.draw at_i rfl rfl rfl rfl rfl room) rfl rfl fit.conserved
    dsimp only
    split
    · nofun
    · exact fun sched => fit.unsched i p at_i sched none

theorem Process.GridsFit.scheduleJob (fit : P.GridsFit base) {i regVal pick : Nat}
    (inOrder : P.InOrder k (.schedule i regVal pick)) (done : P.scheduleJob k i regVal pick = some P') :
    P'.GridsFit base ∧ (FitStep k P.sys P'.sys ∨ P'.sys = P.sys) := by
  obtain ⟨p, at_i, -, ⟨-, rfl⟩ | ⟨valid, sg, cases⟩⟩ := Process.scheduleJob_cases done
  · exact ⟨fit, .inr rfl⟩
  have notSched := validateScheduleStatus_ne_sched valid
  have held : p.gridId ≠ none := fun none => sg (fit.undrawn i p at_i none)
  have away := fit.pending_ne at_i notSched
  set q : ProcJob := { p with status := .sched }
  have draws : ∀ {P' : Process}, P'.jobs = P.jobs.set i q → P'.draws = P.draws →
      P'.gridCounter = P.gridCounter → P'.Draws base := fun jobs =>
    fit.set (q := q) at_i rfl (fun none => absurd none held) (fun fresh => fit.uncalled i p at_i fresh) jobs
  have unsched : ∀ (j : Nat) (r : ProcJob), (P.jobs.set i q)[j]? = some r → r.status = .sched →
      r.gridId ≠ none := fun j r at_j sched => by
    rcases getElem?_set_eq_some at_j with ⟨-, rfl⟩ | ⟨-, old⟩
    exacts [held, fit.unsched j r old sched]
  rcases cases with ⟨text, rfl⟩ | ⟨text, rfl⟩
  · refine ⟨⟨draws rfl rfl rfl, unsched, fun d mem => ?_, fun j r at_j sched text' => ?_, fit.conserved⟩,
      .inr rfl⟩
    · obtain ⟨r, at_d, rest⟩ := fit.pending d mem
      exact ⟨r, getElem?_set_of_ne at_d (away d mem), rest⟩
    · rcases getElem?_set_eq_some at_j with ⟨-, rfl⟩ | ⟨-, old⟩
      exacts [absurd text text', fit.sched j r old sched text']
  · have fresh := fit.fresh at_i notSched sg
    have step : FitStep k P.sys _ := .schedule P.sys (p.desc i) regVal pick (Nat.pos_of_ne_zero sg) fresh
      (inOrder p at_i)
    refine ⟨⟨draws rfl rfl rfl, unsched, fun d mem => ?_, fun j r at_j sched text' => ?_,
      step.conserved fit.conserved⟩, .inl step⟩
    · rcases List.mem_append.mp mem with mem | mem
      · obtain ⟨r, at_d, rest⟩ := fit.pending d mem
        exact ⟨r, getElem?_set_of_ne at_d (away d mem), rest⟩
      · obtain rfl := List.mem_singleton.mp mem
        exact ⟨q, getElem?_set_of_some at_i, rfl, text, sg, rfl⟩
    · refine List.mem_append.mpr ?_
      rcases getElem?_set_eq_some at_j with ⟨rfl, rfl⟩ | ⟨-, old⟩
      exacts [.inr (List.mem_singleton_self _), .inl (fit.sched j r old sched text')]

theorem Process.GridsFit.gridEnd (fit : P.GridsFit base) {job : Job}
    (done : (P.sys.act k (.gridEnd job)).map (fun sys => { P with sys }) = some P') :
    P'.GridsFit base ∧ FitStep k P.sys P'.sys := by
  obtain ⟨sys, acted, rfl⟩ := Option.map_eq_some'.mp done
  simp only [Sys.act] at acted
  split at acted
  · cases acted
    have step : FitStep k P.sys _ := .other _ _ (.gridEnd _ job ‹_›) rfl
    exact ⟨⟨fit.of_jobs rfl rfl rfl, fit.unsched, fit.pending, fit.sched, step.conserved fit.conserved⟩, step⟩
  · cases acted

theorem Process.GridsFit.pollCall (fit : P.GridsFit base) {i : Nat} (done : P.pollCall k i = some P') :
    P'.GridsFit base ∧ FitStep k P.sys P'.sys := by
  obtain ⟨p, at_i, -, rfl⟩ := Process.pollCall_cases done
  have step : FitStep k P.sys { P.sys with pollers := P.sys.pollers ++ [Poller.start (p.desc i)] } :=
    .other _ _ (.pollCall _ _) rfl
  refine ⟨?_, step⟩
  split
  · rename_i empty
    have away : ∀ d ∈ P.sys.pending, d.id ≠ i := by
      intro d mem here
      obtain ⟨r, at_d, -, -, sg, -⟩ := fit.pending d mem
      rw [here, at_i, Option.some.injEq] at at_d
      exact sg (at_d ▸ empty)
    exact fit.set_away (q := { p with status := .done }) away nofun
      (fit.set (q := { p with status := .done }) at_i rfl (fun none => fit.undrawn i p at_i none)
        (fun fresh => fit.uncalled i p at_i fresh) rfl rfl rfl) rfl rfl (step.conserved fit.conserved)
  · exact ⟨fit.of_jobs rfl rfl rfl, fit.unsched, fit.pending, fit.sched, step.conserved fit.conserved⟩

theorem Process.GridsFit.poll (fit : P.GridsFit base) {l regVal pick : Nat}
    (done : P.poll k l regVal pick = some P') : P'.GridsFit base ∧ FitStep k P.sys P'.sys := by
  obtain ⟨c, sim', pc, at_l, moves, rfl⟩ := Process.poll_cases done
  have step : FitStep k P.sys _ := .other _ _ (.poll _ l c regVal pick sim' pc at_l moves) rfl
  have conserved := step.conserved fit.conserved
  refine ⟨?_, step⟩
  by_cases finished : pc = .finished
  · subst finished
    simp only [if_true] at conserved ⊢
    have pending := fit.conserved.pending_of_done (Sim.pollStep_finished moves)
    obtain ⟨q, at_q, sched, -, -, eq⟩ := fit.pending c.job pending
    rw [modify_of_getElem? _ at_q]
    have nodup := fit.conserved.pending_nodup
    have away : ∀ d ∈ P.sys.pending.erase c.job, d.id ≠ c.job.id := by
      intro d mem here
      obtain ⟨differ, mem⟩ := (nodup.mem_erase_iff).mp mem
      obtain ⟨r, at_d, -, -, -, eq'⟩ := fit.pending d mem
      rw [here, at_q, Option.some.injEq] at at_d
      subst at_d
      exact differ (by rw [eq', eq, here])
    refine ⟨fit.set (q := { q with status := .done }) at_q rfl (fun none => fit.undrawn _ q at_q none)
      (fun fresh => fit.uncalled _ q at_q fresh) rfl rfl rfl, fun j r at_j sched' => ?_, fun d mem => ?_,
      fun j r at_j sched' text => ?_, conserved⟩
    · rcases getElem?_set_eq_some at_j with ⟨-, rfl⟩ | ⟨-, old⟩
      · cases sched'
      · exact fit.unsched j r old sched'
    · obtain ⟨r, at_d, rest⟩ := fit.pending d ((nodup.mem_erase_iff).mp mem).2
      exact ⟨r, getElem?_set_of_ne at_d (away d mem), rest⟩
    · rcases getElem?_set_eq_some at_j with ⟨-, rfl⟩ | ⟨differ, old⟩
      · cases sched'
      · refine (nodup.mem_erase_iff).mpr ⟨fun same => differ ?_, fit.sched j r old sched' text⟩
        rw [← same]
        rfl
  · simp only [if_neg finished] at conserved ⊢
    exact ⟨fit.of_jobs rfl rfl rfl, fit.unsched, fit.pending, fit.sched, conserved⟩

theorem Process.GridsFit.destroyJob (fit : P.GridsFit base) {i : Nat} (done : P.destroyJob i = some P') :
    P'.GridsFit base := by
  obtain ⟨p, j, at_i, -, destroyed, rfl⟩ := Process.destroyJob_cases done
  set q : ProcJob := { p with job := j, destroyed := true }
  have counts : j.counts = (P.attach p.job []).counts := JobV3_1.destroy_counts destroyed
  have sg : q.job.sgCnt = p.job.sgCnt := congrArg Prod.fst counts
  have desc : q.desc i = p.desc i := ProcJob.desc_of_counts i counts rfl rfl
  refine ⟨fit.set (q := q) at_i rfl (fun none => sg.trans (fit.undrawn i p at_i none))
      (fun fresh => fit.uncalled i p at_i fresh) rfl rfl rfl, fun j' r at_j sched => ?_, fun d mem => ?_,
    fun j' r at_j sched text => ?_, fit.conserved⟩
  · rcases getElem?_set_eq_some at_j with ⟨-, rfl⟩ | ⟨-, old⟩
    exacts [fit.unsched i p at_i sched, fit.unsched j' r old sched]
  · obtain ⟨r, at_d, sched, text, sg', eq⟩ := fit.pending d mem
    by_cases here : d.id = i
    · rw [here, at_i, Option.some.injEq] at at_d
      subst at_d
      exact ⟨q, by rw [here]; exact getElem?_set_of_some at_i, sched, text, sg ▸ sg', eq.trans (by rw [here, desc])⟩
    · exact ⟨r, getElem?_set_of_ne at_d here, sched, text, sg', eq⟩
  · rcases getElem?_set_eq_some at_j with ⟨rfl, rfl⟩ | ⟨-, old⟩
    · rw [desc]
      exact fit.sched j' p at_i sched text
    · exact fit.sched j' r old sched text

/-- Only `init` draws, one grid id at a time. -/
theorem Process.act_draws {a : ProcAction} (done : P.act k a = some P') : P.draws ≤ P'.draws := by
  cases a with
  | create => cases done; exact le_rfl
  | init i =>
    obtain ⟨p, -, -, -, ⟨-, rfl⟩ | ⟨j, st, -, rfl⟩⟩ := Process.initJob_cases done
    · exact le_rfl
    · exact Nat.le_succ _
  | schedule i regVal pick =>
    obtain ⟨p, -, -, ⟨-, rfl⟩ | ⟨-, -, ⟨-, rfl⟩ | ⟨-, rfl⟩⟩⟩ := Process.scheduleJob_cases done <;> exact le_rfl
  | gridEnd job =>
    obtain ⟨sys, -, rfl⟩ := Option.map_eq_some'.mp done
    exact le_rfl
  | pollCall i =>
    obtain ⟨p, -, -, rfl⟩ := Process.pollCall_cases done
    split <;> exact le_rfl
  | poll l regVal pick =>
    obtain ⟨c, sim', pc, -, -, rfl⟩ := Process.poll_cases done
    exact le_rfl
  | destroy i =>
    obtain ⟨p, j, -, -, -, rfl⟩ := Process.destroyJob_cases done
    exact le_rfl

/-- A step of the process with an in-order reading keeps the invariant while at most
`2^16` grid ids are drawn, and is a fitting step of the simulator or leaves it as it
was. -/
theorem Process.GridsFit.step (fit : P.GridsFit base) {a : ProcAction} (inOrder : P.InOrder k a)
    (done : P.act k a = some P') (room : P'.draws ≤ 2 ^ 16) :
    P'.GridsFit base ∧ (FitStep k P.sys P'.sys ∨ P'.sys = P.sys) := by
  cases a with
  | create graph fm fmIdxes dynShapeSet configShape cfg =>
    cases done
    exact ⟨fit.create graph fm fmIdxes dynShapeSet configShape cfg, .inr rfl⟩
  | init i =>
    refine ⟨fit.initJob done room, .inr ?_⟩
    obtain ⟨p, -, -, -, ⟨-, rfl⟩ | ⟨j, st, -, rfl⟩⟩ := Process.initJob_cases done <;> rfl
  | schedule i regVal pick => exact fit.scheduleJob inOrder done
  | gridEnd job => exact (fit.gridEnd done).imp_right .inl
  | pollCall i => exact (fit.pollCall done).imp_right .inl
  | poll l regVal pick => exact (fit.poll done).imp_right .inl
  | destroy i =>
    refine ⟨fit.destroyJob done, .inr ?_⟩
    obtain ⟨p, j, -, -, -, rfl⟩ := Process.destroyJob_cases done
    rfl

/-- Every process reached with in-order readings and at most `2^16` grid ids drawn keeps
the invariant, and its simulator is reached by fitting steps. -/
theorem Process.ReachInOrder.fit (reach : P.ReachInOrder k base) (room : P.draws ≤ 2 ^ 16) :
    P.GridsFit base ∧ FitReach k P.sys := by
  induction reach with
  | start mode maxGroupId mem => exact ⟨Process.start_gridsFit mode maxGroupId mem, mode, .refl⟩
  | step a _ inOrder done ih =>
    obtain ⟨fit, mode, run⟩ := ih ((Process.act_draws done).trans room)
    obtain ⟨fit', step | same⟩ := fit.step inOrder done room
    · exact ⟨fit', mode, run.tail step⟩
    · exact ⟨fit', mode, same ▸ run⟩

end Steps

/-! ## `poll_status` for a job of the process -/

/-- A step of the process while its `poll_status` call `l` runs and no job is scheduled:
a step of the call, or the engine ending a chain. -/
inductive Process.CallPhase (k : SimConsts) (l : Nat) : Process → Process → Prop
  | poll (P P' : Process) (regVal pick : Nat) (done : P.act k (.poll l regVal pick) = some P') :
    Process.CallPhase k l P P'
  | gridEnd (P P' : Process) (job : Job) (done : P.act k (.gridEnd job) = some P') :
    Process.CallPhase k l P P'

section Poll

variable {k : SimConsts} {l : Nat} {P P' : Process}

/-- The simulator's part of the process's phase is the simulator's phase. -/
theorem Process.CallPhase.sys (step : Process.CallPhase k l P P') : PollPhase k l P.sys P'.sys := by
  cases step with
  | poll regVal pick done =>
    obtain ⟨c, sim', pc, at_l, moves, rfl⟩ := Process.poll_cases done
    exact .poll P.sys c regVal pick sim' pc at_l moves
  | gridEnd job done =>
    obtain ⟨sys, acted, rfl⟩ := Option.map_eq_some'.mp done
    simp only [Sys.act] at acted
    split at acted
    · cases acted
      exact .gridEnd P.sys job ‹_›
    · cases acted

/-- Every step of the simulator's phase is taken by the process. -/
theorem Process.CallPhase.lift {t : Sys} (step : PollPhase k l P.sys t) :
    ∃ P', Process.CallPhase k l P P' := by
  cases step with
  | poll c regVal pick sim' pc at_l moves =>
    have acted : P.sys.act k (.poll l regVal pick) = some { P.sys with
        sim := sim'
        pollers := P.sys.pollers.set l ⟨c.job, pc⟩
        pending := if pc = .finished then P.sys.pending.erase c.job else P.sys.pending } := by
      simp only [Sys.act, at_l, moves]
    exact ⟨_, .poll P _ regVal pick (by rw [Process.act, Process.poll, acted]; rfl)⟩
  | gridEnd job running =>
    exact ⟨_, .gridEnd P _ job (by rw [Process.act, Sys.act, if_pos running]; rfl)⟩

/-- While call `l` runs for `desc`, the job `desc` names is DONE once the call has
returned. -/
theorem Process.CallPhase.reported {desc : Job} (step : Process.CallPhase k l P P')
    (called : ∃ pc, P.sys.pollers.get? l = some ⟨desc, pc⟩)
    (tracked : ∃ q : ProcJob, P.jobs[desc.id]? = some q ∧
      (P.sys.pollers.get? l = some ⟨desc, .finished⟩ → q.status = .done)) :
    (∃ pc, P'.sys.pollers.get? l = some ⟨desc, pc⟩) ∧ ∃ q : ProcJob, P'.jobs[desc.id]? = some q ∧
      (P'.sys.pollers.get? l = some ⟨desc, .finished⟩ → q.status = .done) := by
  cases step with
  | poll regVal pick done =>
    obtain ⟨c, sim', pc, at_l, moves, rfl⟩ := Process.poll_cases done
    obtain ⟨pc₀, at_l'⟩ := called
    obtain rfl := Option.some.inj (at_l.symm.trans at_l')
    obtain ⟨q, at_q, -⟩ := tracked
    have now : (P.sys.pollers.set l ⟨desc, pc⟩).get? l = some ⟨desc, pc⟩ := by
      rw [List.get?_eq_getElem?, List.getElem?_set_eq_of_lt _ (List.get?_eq_some.mp at_l').1]
    refine ⟨⟨pc, now⟩, ?_⟩
    by_cases finished : pc = .finished
    · subst finished
      exact ⟨{ q with status := .done }, by simp only [if_true, modify_of_getElem? _ at_q,
        getElem?_set_of_some at_q], fun _ => rfl⟩
    · refine ⟨q, by simp only [if_neg finished, at_q], fun returned => ?_⟩
      rw [now] at returned
      cases returned
      exact absurd rfl finished
  | gridEnd job done =>
    obtain ⟨sys, acted, rfl⟩ := Option.map_eq_some'.mp done
    have pollers : sys.pollers = P.sys.pollers := by
      simp only [Sys.act] at acted
      split at acted
      · cases acted
        rfl
      · cases acted
    simp only [pollers]
    exact ⟨called, tracked⟩

/-- `P'` differs from `P` only in its simulator and in its jobs' statuses. -/
structure Process.StatusOnly (P P' : Process) : Prop where
  bitmap : P'.bitmap = P.bitmap
  groupLog : P'.groupLog = P.groupLog
  mem : P'.mem = P.mem
  draws : P'.draws = P.draws
  length : P'.jobs.length = P.jobs.length
  jobs : ∀ (i : Nat) (p : ProcJob), P.jobs[i]? = some p → ∃ st, P'.jobs[i]? = some { p with status := st }

theorem Process.StatusOnly.refl (P : Process) : P.StatusOnly P :=
  ⟨rfl, rfl, rfl, rfl, rfl, fun _ p at_i => ⟨p.status, at_i⟩⟩

theorem Process.StatusOnly.trans {P₁ P₂ P₃ : Process} (first : P₁.StatusOnly P₂)
    (second : P₂.StatusOnly P₃) : P₁.StatusOnly P₃ where
  bitmap := second.bitmap.trans first.bitmap
  groupLog := second.groupLog.trans first.groupLog
  mem := second.mem.trans first.mem
  draws := second.draws.trans first.draws
  length := second.length.trans first.length
  jobs i p at_i := by
    obtain ⟨_, at_i⟩ := first.jobs i p at_i
    obtain ⟨st, at_i⟩ := second.jobs i _ at_i
    exact ⟨st, at_i⟩

/-- The phase moves only the simulator and the status of the job whose call returns. -/
theorem Process.CallPhase.statusOnly (step : Process.CallPhase k l P P') : P.StatusOnly P' := by
  cases step with
  | poll regVal pick done =>
    obtain ⟨c, sim', pc, -, -, rfl⟩ := Process.poll_cases done
    refine ⟨rfl, rfl, rfl, rfl, by split <;> simp only [List.length_modify], fun i p at_i => ?_⟩
    by_cases finished : pc = .finished
    · simp only [if_pos finished, List.getElem?_modify, at_i, Option.map_eq_map, Option.map_some']
      split
      exacts [⟨_, rfl⟩, ⟨p.status, rfl⟩]
    · exact ⟨p.status, by simp only [if_neg finished]; exact at_i⟩
  | gridEnd job done =>
    obtain ⟨sys, -, rfl⟩ := Option.map_eq_some'.mp done
    exact ⟨rfl, rfl, rfl, rfl, rfl, fun _ p at_i => ⟨p.status, at_i⟩⟩

theorem Process.CallPhase.statusOnly_run {Q : Process}
    (run : Relation.ReflTransGen (Process.CallPhase k l) P Q) : P.StatusOnly Q := by
  induction run with
  | refl => exact Process.StatusOnly.refl P
  | tail _ step ih => exact ih.trans step.statusOnly

/-- The phase's steps are steps of the process with in-order readings. -/
theorem Process.ReachInOrder.callPhase {base : UInt16} {Q : Process} (reach : P.ReachInOrder k base)
    (run : Relation.ReflTransGen (Process.CallPhase k l) P Q) : Q.ReachInOrder k base := by
  induction run with
  | refl => exact reach
  | tail _ step ih =>
    cases step with
    | poll regVal pick done => exact .step (.poll l regVal pick) ih trivial done
    | gridEnd job done => exact .step (.gridEnd job) ih trivial done

/-- A run of the phase is a run of the process on steps of call `l` and the engine's
`GRID_END`s. -/
theorem Process.CallPhase.actions {Q : Process} (run : Relation.ReflTransGen (Process.CallPhase k l) P Q) :
    ∃ acts : List ProcAction, P.run k acts = some Q ∧
      ∀ a ∈ acts, (∃ regVal pick, a = .poll l regVal pick) ∨ ∃ job, a = .gridEnd job := by
  induction run using Relation.ReflTransGen.head_induction_on with
  | refl => exact ⟨[], rfl, nofun⟩
  | head step _ ih =>
    obtain ⟨acts, ran, calls⟩ := ih
    cases step with
    | poll regVal pick done =>
      exact ⟨.poll l regVal pick :: acts, by rw [Process.run, done]; exact ran,
        List.forall_mem_cons.mpr ⟨.inl ⟨regVal, pick, rfl⟩, calls⟩⟩
    | gridEnd job done =>
      exact ⟨.gridEnd job :: acts, by rw [Process.run, done]; exact ran,
        List.forall_mem_cons.mpr ⟨.inr ⟨job, rfl⟩, calls⟩⟩

/-- A relation with no infinite run from `a`, in which every state reached either meets
`goal` or can step, reaches a state that meets `goal`. -/
theorem exists_goal_of_acc {α : Type} {r : α → α → Prop} {goal : α → Prop} {a : α}
    (acc : Acc (fun x y => r y x) a)
    (progress : ∀ b, Relation.ReflTransGen r a b → goal b ∨ ∃ c, r b c) :
    ∃ b, Relation.ReflTransGen r a b ∧ goal b := by
  induction acc with
  | intro a _ ih =>
    rcases progress a .refl with reached | ⟨c, step⟩
    · exact ⟨a, .refl, reached⟩
    · obtain ⟨b, run, reached⟩ := ih c step fun b run => progress b (.head step run)
      exact ⟨b, .head step run, reached⟩

/-- Callers that made one call have no other call in flight. -/
theorem Sys.alone_of_single {s : Sys} {c : Poller} (pollers : s.pollers = [c]) :
    ∀ l' ≠ 0, ∀ c', s.pollers.get? l' = some c' → c'.pc = .finished := by
  intro l' other c' at_l
  rw [pollers] at at_l
  cases l' with
  | zero => exact absurd rfl other
  | succ l' => simp at at_l

/-- A call just made for a SCHED job with a text section that has left the queue, while no
other call is in flight, starts with the simulator's invariant for it. -/
theorem Process.GridsFit.callInv {base : UInt16} (fit : P.GridsFit base) {i : Nat} {p : ProcJob}
    (at_i : P.jobs[i]? = some p) (sched : p.status = .sched) (text : p.cfg.textSize ≠ 0)
    (called : P.sys.pollers.get? l = some ⟨p.desc i, .checkDone⟩)
    (alone : ∀ l' ≠ l, ∀ c, P.sys.pollers.get? l' = some c → c.pc = .finished)
    (dispatched : p.desc i ∉ P.sys.sim.bufferQueue) : CallInv l (p.desc i) P.sys .checkDone :=
  ⟨fit.conserved, alone, called, nofun, fun _ => ⟨fit.sched i p at_i sched text, dispatched⟩, nofun⟩

/-- A call `l` for `desc` that starts with the simulator's invariant for it: the process's
phase has no infinite run, and until the job `desc` names is DONE it can take a step. -/
theorem Process.CallPhase.returns {desc : Job} (inv : CallInv l desc P.sys .checkDone)
    {q : ProcJob} (at_q : P.jobs[desc.id]? = some q) :
    Acc (fun Q R => Process.CallPhase k l R Q) P ∧
      ∀ Q, Relation.ReflTransGen (Process.CallPhase k l) P Q →
        (∃ q : ProcJob, Q.jobs[desc.id]? = some q ∧ q.status = .done) ∨ ∃ Q', Process.CallPhase k l Q Q' := by
  refine ⟨Subrelation.accessible (fun step => Process.CallPhase.sys step)
    (InvImage.accessible Process.sys inv.acc), fun Q run => ?_⟩
  have tracked : (∃ pc, Q.sys.pollers.get? l = some ⟨desc, pc⟩) ∧ ∃ q : ProcJob, Q.jobs[desc.id]? = some q ∧
      (Q.sys.pollers.get? l = some ⟨desc, .finished⟩ → q.status = .done) := by
    induction run with
    | refl => exact ⟨⟨_, inv.at_i⟩, q, at_q, fun returned => by rw [inv.at_i] at returned; cases returned⟩
    | tail _ step ih => exact step.reported ih.1 ih.2
  obtain ⟨pc, inv'⟩ := inv.reaches (Relation.ReflTransGen.lift Process.sys
    (fun _ _ step => Process.CallPhase.sys step) run)
  by_cases finished : pc = .finished
  · subst finished
    obtain ⟨q, at_q, reported⟩ := tracked.2
    exact .inl ⟨q, at_q, reported inv'.at_i⟩
  · obtain ⟨t, step⟩ := inv'.progress finished
    exact .inr (Process.CallPhase.lift step)

/-- In a process reached with in-order readings and at most `2^16` grid ids drawn, the
simulator is reached by fitting steps; and a `poll_status` call for a SCHED job with a
text section that has left the queue, made while no other call is in flight, returns
with the job DONE: no run of its steps and of the engine's is infinite, and until the
job is DONE one of them can be taken. -/
theorem Process.poll_returns_done {base : UInt16} (reach : P.ReachInOrder k base) (room : P.draws ≤ 2 ^ 16)
    {i : Nat} {p : ProcJob} (at_i : P.jobs[i]? = some p) (sched : p.status = .sched)
    (text : p.cfg.textSize ≠ 0) (called : P.sys.pollers.get? l = some ⟨p.desc i, .checkDone⟩)
    (alone : ∀ l' ≠ l, ∀ c, P.sys.pollers.get? l' = some c → c.pc = .finished)
    (dispatched : p.desc i ∉ P.sys.sim.bufferQueue) :
    FitReach k P.sys ∧ Acc (fun Q R => Process.CallPhase k l R Q) P ∧
      ∀ Q, Relation.ReflTransGen (Process.CallPhase k l) P Q →
        (∃ q : ProcJob, Q.jobs[i]? = some q ∧ q.status = .done) ∨ ∃ Q', Process.CallPhase k l Q Q' := by
  obtain ⟨fit, fitReach⟩ := reach.fit room
  exact ⟨fitReach, Process.CallPhase.returns (fit.callInv at_i sched text called alone dispatched) at_i⟩

end Poll

/-- Scenario E3's job, with a text section, created, initialized and scheduled on an idle
simulator, and a `poll_status` call for it. -/
def e3Calls : List ProcAction :=
  [.create e3Graph true [] false [] ⟨0, 1, 0x1000, 4096⟩, .init 0, .schedule 0 0 0, .pollCall 0]

theorem poll_returns_done_e3 :
    ∃ P : Process, (Process.start 0 16 0 .fresh).runInOrder ⟨0, 1, 0⟩ e3Calls = some P ∧
      P.ReachInOrder ⟨0, 1, 0⟩ 0 ∧ P.draws ≤ 2 ^ 16 ∧ ∃ p : ProcJob, P.jobs[0]? = some p ∧
        p.status = .sched ∧ p.cfg.textSize ≠ 0 ∧ P.sys.pollers.get? 0 = some ⟨p.desc 0, .checkDone⟩ ∧
        (∀ l' ≠ 0, ∀ c, P.sys.pollers.get? l' = some c → c.pc = .finished) ∧
        p.desc 0 ∉ P.sys.sim.bufferQueue ∧
        FitReach ⟨0, 1, 0⟩ P.sys ∧ Acc (fun Q R => Process.CallPhase ⟨0, 1, 0⟩ 0 R Q) P ∧
        ∀ Q, Relation.ReflTransGen (Process.CallPhase ⟨0, 1, 0⟩ 0) P Q →
          (∃ q : ProcJob, Q.jobs[0]? = some q ∧ q.status = .done) ∨
            ∃ Q', Process.CallPhase ⟨0, 1, 0⟩ 0 Q Q' := by
  obtain ⟨P, run, p, at_0, pollers, room, sched, text, dispatched⟩ : ∃ P : Process,
      (Process.start 0 16 0 .fresh).runInOrder ⟨0, 1, 0⟩ e3Calls = some P ∧ ∃ p : ProcJob,
        P.jobs[0]? = some p ∧ P.sys.pollers = [⟨p.desc 0, .checkDone⟩] ∧ P.draws ≤ 2 ^ 16 ∧
        p.status = .sched ∧ p.cfg.textSize ≠ 0 ∧ p.desc 0 ∉ P.sys.sim.bufferQueue :=
    ⟨_, rfl, _, rfl, by decide⟩
  have reach := (Process.ReachInOrder.start 0 16 .fresh :
    (Process.start 0 16 0 .fresh).ReachInOrder ⟨0, 1, 0⟩ 0).runInOrder run
  have alone := Sys.alone_of_single pollers
  have called : P.sys.pollers.get? 0 = some ⟨p.desc 0, .checkDone⟩ := by rw [pollers]; rfl
  exact ⟨P, run, reach, room, p, at_0, sched, text, called, alone, dispatched,
    Process.poll_returns_done reach room at_0 sched text called alone dispatched⟩

end AipuUmd
