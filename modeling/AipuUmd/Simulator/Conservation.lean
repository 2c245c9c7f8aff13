import AipuUmd.Simulator.Dispatch

/-!
# Conservation of scheduled jobs

A job handed to `schedule` should sit in exactly one of `m_buffer_queue`, the values
of `m_commit_map` and `m_done_set` until `poll_status` reports it, reach the done set
only after its own chain ended, and never lose its commit-map entry to another job.

Two things break this. `schedule` keys the job it pops under the grid id of the job
it was called with (`schedule_commits_head_under_scheduled_grid`), so a later
dispatch of that job overwrites the entry (`misKeyed_loses_job`). And grid ids are
16-bit, so a pending job can share its key with a later one. `FitStep` is a step of
a run that avoids both: every scheduled job has a grid id no pending job holds, and
`schedule` never finds the simulator free with jobs already queued. Along such runs
`Sys.Conserved` holds, and with it the three properties (`fit_runs_conserve_jobs`).
-/

namespace AipuUmd

/-! ## The drain loop -/

theorem drainGrid_lookup (acc : Sim × List UInt16) (g h : UInt16) :
    (drainGrid acc g).1.commitMap.lookup h = if h = g then none else acc.1.commitMap.lookup h := by
  unfold drainGrid
  split
  · split
    · subst h; exact AList.lookup_erase _ _
    · exact AList.lookup_erase_ne ‹_›
  · split
    · subst h; assumption
    · rfl

theorem mem_drainGrid_commitMap (acc : Sim × List UInt16) (g h : UInt16) :
    h ∈ (drainGrid acc g).1.commitMap ↔ h ≠ g ∧ h ∈ acc.1.commitMap := by
  rw [← AList.lookup_isSome, drainGrid_lookup, ← AList.lookup_isSome]
  split <;> simp [*]

theorem mem_drainGrid_doneSet (acc : Sim × List UInt16) (g : UInt16) (j : Job) :
    j ∈ (drainGrid acc g).1.doneSet ↔ j ∈ acc.1.doneSet ∨ acc.1.commitMap.lookup g = some j := by
  unfold drainGrid
  split
  · rename_i job found
    simp only [List.mem_insert_iff, found, Option.some.injEq, eq_comm (a := job)]
    exact or_comm
  · simp [*]

theorem mem_drainGrid_drained (acc : Sim × List UInt16) (g h : UInt16) :
    h ∈ (drainGrid acc g).2 ↔ h ∈ acc.2 ∨ (h = g ∧ g ∈ acc.1.commitMap) := by
  rw [← AList.lookup_isSome]
  unfold drainGrid
  split <;> simp [*]

theorem foldl_drainGrid_lookup (grids : List UInt16) (acc : Sim × List UInt16) (h : UInt16) :
    (grids.foldl drainGrid acc).1.commitMap.lookup h =
      if h ∈ grids then none else acc.1.commitMap.lookup h := by
  induction grids generalizing acc with
  | nil => simp
  | cons g grids ih =>
    rw [List.foldl_cons, ih, drainGrid_lookup]
    by_cases hg : h = g <;> simp [hg]

theorem foldl_drainGrid_doneSet (grids : List UInt16) (acc : Sim × List UInt16) (j : Job) :
    j ∈ (grids.foldl drainGrid acc).1.doneSet ↔
      j ∈ acc.1.doneSet ∨ ∃ g ∈ grids, acc.1.commitMap.lookup g = some j := by
  induction grids generalizing acc with
  | nil => simp
  | cons g grids ih =>
    rw [List.foldl_cons, ih, mem_drainGrid_doneSet, List.exists_mem_cons_iff, or_assoc]
    refine or_congr_right ⟨?_, ?_⟩
    · rintro (found | ⟨g', mem, stored⟩)
      · exact .inl found
      · rw [drainGrid_lookup] at stored
        split at stored
        · cases stored
        · exact .inr ⟨g', mem, stored⟩
    · rintro (found | ⟨g', mem, stored⟩)
      · exact .inl found
      · by_cases same : g' = g
        · subst same; exact .inl stored
        · exact .inr ⟨g', mem, by rwa [drainGrid_lookup, if_neg same]⟩

theorem foldl_drainGrid_drained (grids : List UInt16) (acc : Sim × List UInt16) (h : UInt16) :
    h ∈ (grids.foldl drainGrid acc).2 ↔ h ∈ acc.2 ∨ (h ∈ grids ∧ h ∈ acc.1.commitMap) := by
  induction grids generalizing acc with
  | nil => simp
  | cons g grids ih =>
    rw [List.foldl_cons, ih, mem_drainGrid_drained, mem_drainGrid_commitMap]
    by_cases hg : h = g
    · subst hg; simp
    · simp [hg]

/-- A finished grid's commit entry is gone after the drain. -/
theorem Sim.drainGrids_lookup (s : Sim) (h : UInt16) :
    s.drainGrids.commitMap.lookup h = if h ∈ s.simDoneGridSet then none else s.commitMap.lookup h :=
  foldl_drainGrid_lookup _ _ h

/-- The drain moves the jobs of committed finished grids to the done set. -/
theorem Sim.mem_drainGrids_doneSet (s : Sim) (j : Job) :
    j ∈ s.drainGrids.doneSet ↔ j ∈ s.doneSet ∨ ∃ g ∈ s.simDoneGridSet, s.commitMap.lookup g = some j :=
  foldl_drainGrid_doneSet _ _ j

/-- Only the finished grids that were not committed stay recorded. -/
theorem Sim.mem_drainGrids_simDoneGridSet (s : Sim) (h : UInt16) :
    h ∈ s.drainGrids.simDoneGridSet ↔ h ∈ s.simDoneGridSet ∧ h ∉ s.commitMap := by
  simp only [Sim.drainGrids, List.removeAll, List.mem_filter, List.elem_eq_mem, Bool.not_eq_true',
    decide_eq_false_iff_not, foldl_drainGrid_drained, List.not_mem_nil, false_or, not_and]
  rw [foldl_drainGrid_preserves Sim.simDoneGridSet (fun acc g => by unfold drainGrid; split <;> rfl)]
  exact ⟨fun ⟨mem, gone⟩ => ⟨mem, gone mem⟩, fun ⟨mem, gone⟩ => ⟨mem, fun _ => gone⟩⟩

theorem Sim.drainGrids_aipu (s : Sim) : s.drainGrids.aipu = s.aipu :=
  foldl_drainGrid_preserves Sim.aipu drainGrid_aipu _ _

theorem Sim.drainGrids_doneSet_nodup (s : Sim) (nodup : s.doneSet.Nodup) :
    s.drainGrids.doneSet.Nodup :=
  foldl_drainGrid_inv (fun s => s.doneSet.Nodup)
    (fun acc g nodup => by unfold drainGrid; split; exact nodup.insert; exact nodup) _ _ nodup

/-! ## Where the simulator holds a job -/

/-- The jobs recorded as values of `m_commit_map`. -/
def Sim.committed (s : Sim) : List Job := s.commitMap.entries.map Sigma.snd

/-- How often the simulator holds `job`: in `m_buffer_queue`, among the values of
`m_commit_map`, and in `m_done_set`. -/
def Sim.holdCount (s : Sim) (job : Job) : Nat :=
  s.bufferQueue.count job + s.committed.count job + if job ∈ s.doneSet then 1 else 0

/-- Every entry of `m_commit_map` is keyed by its own job's grid id. -/
def Sim.Keyed (s : Sim) : Prop := ∀ g j, s.commitMap.lookup g = some j → j.gridId = g

theorem Sim.mem_committed {s : Sim} {j : Job} :
    j ∈ s.committed ↔ ∃ g, s.commitMap.lookup g = some j := by
  simp only [Sim.committed, List.mem_map, ← Option.mem_def, AList.mem_lookup_iff]
  exact ⟨fun ⟨⟨g, _⟩, mem, same⟩ => ⟨g, same ▸ mem⟩, fun ⟨g, mem⟩ => ⟨⟨g, j⟩, mem, rfl⟩⟩

theorem Sim.Keyed.committed_nodup {s : Sim} (keyed : s.Keyed) : s.committed.Nodup := by
  refine s.commitMap.nodupKeys.nodup.map_on ?_
  rintro ⟨g, v⟩ mem ⟨g', v'⟩ mem' (rfl : v = v')
  have key := keyed g v (AList.mem_lookup_iff.mpr mem)
  have key' := keyed g' v (AList.mem_lookup_iff.mpr mem')
  subst key key'
  rfl

/-- Under `Sim.Keyed`, a job is a value of `m_commit_map` at most once, under its own
grid id. -/
theorem Sim.Keyed.holdCount {s : Sim} (keyed : s.Keyed) (j : Job) :
    s.holdCount j = s.bufferQueue.count j +
      (if s.commitMap.lookup j.gridId = some j then 1 else 0) + if j ∈ s.doneSet then 1 else 0 := by
  have committed : s.committed.count j = if s.commitMap.lookup j.gridId = some j then 1 else 0 := by
    split
    · exact List.count_eq_one_of_mem keyed.committed_nodup (Sim.mem_committed.mpr ⟨_, ‹_›⟩)
    · refine List.count_eq_zero_of_not_mem fun mem => ?_
      obtain ⟨g, stored⟩ := Sim.mem_committed.mp mem
      exact ‹¬_› (keyed g j stored ▸ stored)
  rw [Sim.holdCount, committed]

/-! ## The invariant -/

/-- What every run of fitting steps keeps, for the jobs `pending` scheduled and not yet
reported: each is held exactly once and no other job is held, entries are keyed by
their job's grid id, a running chain is committed and not yet signalled, a signalled
grid is committed, and a done job was dispatched and has ended. -/
structure Sim.Conserved (s : Sim) (pending : List Job) : Prop where
  keyed : s.Keyed
  distinct : pending.Pairwise fun a b => a.gridId ≠ b.gridId
  hold : ∀ j, s.holdCount j = if j ∈ pending then 1 else 0
  doneNodup : s.doneSet.Nodup
  running : ∀ j ∈ s.aipu.running,
    s.commitMap.lookup j.gridId = some j ∧ j.gridId ∉ s.simDoneGridSet
  runningNodup : s.aipu.running.Nodup
  ended : ∀ g j, s.commitMap.lookup g = some j → j ∈ s.aipu.running ∨ g ∈ s.simDoneGridSet
  signalled : ∀ g ∈ s.simDoneGridSet, g ∈ s.commitMap
  started : ∀ g j, s.commitMap.lookup g = some j → j ∈ s.aipu.started
  done : ∀ j ∈ s.doneSet, j ∈ s.aipu.started ∧ j ∉ s.aipu.running

theorem Sim.init_conserved (mode : Nat) : (Sim.init mode).Conserved [] where
  keyed g j stored := by simp [Sim.init, AList.lookup_empty] at stored
  distinct := .nil
  hold j := by simp [Sim.holdCount, Sim.committed, Sim.init, AList.empty_entries]
  doneNodup := .nil
  running j mem := by simp [Sim.init] at mem
  runningNodup := .nil
  ended g j stored := by simp [Sim.init, AList.lookup_empty] at stored
  signalled g mem := by simp [Sim.init] at mem
  started g j stored := by simp [Sim.init, AList.lookup_empty] at stored
  done j mem := by simp [Sim.init] at mem

section Conserved

variable {s : Sim} {P : List Job}

theorem Sim.Conserved.pending_nodup (c : s.Conserved P) : P.Nodup :=
  c.distinct.imp fun apart => mt (congrArg Job.gridId) apart

theorem Sim.Conserved.eq_of_gridId (c : s.Conserved P) {a b : Job} (ha : a ∈ P) (hb : b ∈ P)
    (same : a.gridId = b.gridId) : a = b :=
  Classical.byContradiction fun differ => c.distinct.forall (fun _ _ => Ne.symm) ha hb differ same

theorem Sim.Conserved.pending_of_held (c : s.Conserved P) {j : Job} (held : 0 < s.holdCount j) :
    j ∈ P :=
  Classical.byContradiction fun absent => by rw [c.hold, if_neg absent] at held; omega

theorem Sim.Conserved.pending_of_lookup (c : s.Conserved P) {g : UInt16} {j : Job}
    (stored : s.commitMap.lookup g = some j) : j ∈ P := by
  obtain rfl := c.keyed g j stored
  exact c.pending_of_held (by rw [c.keyed.holdCount, if_pos stored]; omega)

theorem Sim.Conserved.pending_of_done (c : s.Conserved P) {j : Job} (done : j ∈ s.doneSet) :
    j ∈ P :=
  c.pending_of_held (by rw [Sim.holdCount, if_pos done]; omega)

/-- A grid id no pending job holds is not a key of `m_commit_map`. -/
theorem Sim.Conserved.not_mem_of_fresh (c : s.Conserved P) {g : UInt16}
    (fresh : ∀ j ∈ P, j.gridId ≠ g) : g ∉ s.commitMap := fun mem => by
  obtain ⟨j, stored⟩ := Option.isSome_iff_exists.mp (AList.lookup_isSome.mpr mem)
  exact fresh j (c.pending_of_lookup stored) (c.keyed g j stored)

/-- The head of the queue is pending and held only there. -/
theorem Sim.Conserved.head_held (c : s.Conserved P) {job : Job} {rest : List Job}
    (queue : s.bufferQueue = job :: rest) :
    job ∈ P ∧ job ∉ s.doneSet ∧ s.commitMap.lookup job.gridId ≠ some job := by
  have held := c.hold job
  rw [c.keyed.holdCount, queue, List.count_cons_self] at held
  have pending : job ∈ P := c.pending_of_held (by rw [Sim.holdCount, queue, List.count_cons_self]; omega)
  rw [if_pos pending] at held
  refine ⟨pending, fun mem => ?_, fun stored => ?_⟩
  · rw [if_pos mem] at held; omega
  · rw [if_pos stored] at held; omega

/-- The grid id of the queue head is no key of `m_commit_map`, and no done job has it. -/
theorem Sim.Conserved.head_fresh (c : s.Conserved P) {job : Job} {rest : List Job}
    (queue : s.bufferQueue = job :: rest) :
    job.gridId ∉ s.commitMap ∧ ∀ j ∈ s.doneSet, j.gridId ≠ job.gridId := by
  obtain ⟨pending, notDone, notCommitted⟩ := c.head_held queue
  refine ⟨fun mem => ?_, fun j mem same => ?_⟩
  · obtain ⟨j, stored⟩ := Option.isSome_iff_exists.mp (AList.lookup_isSome.mpr mem)
    obtain rfl := c.eq_of_gridId (c.pending_of_lookup stored) pending (c.keyed _ j stored)
    exact notCommitted stored
  · obtain rfl := c.eq_of_gridId (c.pending_of_done mem) pending same
    exact notDone mem

/-! ### One lemma per operation -/

/-- The invariant reads only the queue, the commit map, the done and signalled sets
and the engine's chains. -/
theorem Sim.Conserved.frame (c : s.Conserved P) {t : Sim} (queue : t.bufferQueue = s.bufferQueue)
    (commit : t.commitMap = s.commitMap) (done : t.doneSet = s.doneSet)
    (grids : t.simDoneGridSet = s.simDoneGridSet) (engine : t.aipu.running = s.aipu.running)
    (started : t.aipu.started = s.aipu.started) : t.Conserved P := by
  obtain ⟨⟩ := c
  constructor <;> (try simp only [Sim.Keyed, Sim.holdCount, Sim.committed, queue, commit, done,
    grids, engine, started]) <;> assumption

theorem Sim.Conserved.bind (c : s.Conserved P) (bound : Job → Option Nat) :
    ({ s with bindCmdpoolId := bound } : Sim).Conserved P :=
  c.frame rfl rfl rfl rfl rfl rfl

/-- `schedule` queueing a job whose grid id no pending job holds. -/
theorem Sim.Conserved.enqueue (c : s.Conserved P) {job : Job}
    (fresh : ∀ j ∈ P, j.gridId ≠ job.gridId) (bound : Job → Option Nat) :
    ({ s with bindCmdpoolId := bound, bufferQueue := s.bufferQueue ++ [job] } : Sim).Conserved
      (P ++ [job]) where
  keyed := c.keyed
  distinct := List.pairwise_append.mpr ⟨c.distinct, List.pairwise_singleton _ _,
    fun a mem b new => List.mem_singleton.mp new ▸ fresh a mem⟩
  hold j := by
    have held := c.hold j
    simp only [Sim.holdCount, Sim.committed, List.count_append, List.count_singleton',
      List.mem_append, List.mem_singleton] at held ⊢
    by_cases same : j = job
    · subst same
      rw [if_neg fun mem => fresh j mem rfl] at held
      simp only [if_true, or_true]
      omega
    · simp only [Ne.symm same, same, if_false, or_false]
      omega
  doneNodup := c.doneNodup
  running := c.running
  runningNodup := c.runningNodup
  ended := c.ended
  signalled := c.signalled
  started := c.started
  done := c.done

/-- A dispatch of the queue head under its own grid id. -/
theorem Sim.Conserved.dispatchHead (c : s.Conserved P) {job : Job} {rest : List Job}
    (queue : s.bufferQueue = job :: rest) (ws : List RegWrite) :
    (s.dispatch job rest job.gridId ws).Conserved P := by
  obtain ⟨-, notDone, notCommitted⟩ := c.head_held queue
  have key := (c.head_fresh queue).1
  have notRunning : job ∉ s.aipu.running := fun mem => notCommitted (c.running job mem).1
  have lookup (g : UInt16) : (s.dispatch job rest job.gridId ws).commitMap.lookup g =
      if g = job.gridId then some job else s.commitMap.lookup g := by
    split
    · subst g; exact AList.lookup_insert _
    · exact AList.lookup_insert_ne ‹_›
  have apart {g : UInt16} {j : Job} (stored : s.commitMap.lookup g = some j) : g ≠ job.gridId :=
    fun same => key (same ▸ AList.lookup_isSome.mp (by rw [stored]; rfl))
  constructor
  · intro g j stored
    rw [lookup] at stored
    split at stored
    · cases stored; exact ‹g = _›.symm
    · exact c.keyed g j stored
  · exact c.distinct
  · intro j
    rw [← c.hold j]
    simp only [Sim.holdCount, Sim.committed, Sim.dispatch_bufferQueue, Sim.dispatch_commitMap,
      Sim.dispatch_doneSet, AList.insert_entries_of_neg key, List.map_cons, queue, List.count_cons]
    omega
  · exact c.doneNodup
  · intro j mem
    rw [Sim.dispatch_running, List.mem_append, List.mem_singleton] at mem
    rcases mem with mem | rfl
    · obtain ⟨stored, notSignalled⟩ := c.running j mem
      exact ⟨by rw [lookup, if_neg (apart stored), stored], notSignalled⟩
    · exact ⟨by rw [lookup, if_pos rfl], fun mem => key (c.signalled _ mem)⟩
  · simpa using c.runningNodup.concat notRunning
  · intro g j stored
    rw [lookup] at stored
    split at stored
    · cases stored; exact .inl (by simp)
    · exact (c.ended g j stored).imp (fun mem => by simp [mem]) id
  · exact fun g mem => (AList.mem_insert _).mpr (.inr (c.signalled g mem))
  · intro g j stored
    rw [lookup] at stored
    split at stored
    · cases stored; simp
    · simp [c.started g j stored]
  · intro j mem
    obtain ⟨started, notRunning'⟩ := c.done j mem
    refine ⟨by simp [started], ?_⟩
    rw [Sim.dispatch_running, List.mem_append, List.mem_singleton]
    rintro (running | rfl)
    · exact notRunning' running
    · exact notDone mem

/-- The drain moves the job of every signalled grid to the done set. -/
theorem Sim.Conserved.drainGrids (c : s.Conserved P) : s.drainGrids.Conserved P := by
  have keyed : s.drainGrids.Keyed := fun g j stored => by
    rw [Sim.drainGrids_lookup] at stored
    split at stored
    · cases stored
    · exact c.keyed g j stored
  have done (j : Job) : j ∈ s.drainGrids.doneSet ↔ j ∈ s.doneSet ∨
      (j.gridId ∈ s.simDoneGridSet ∧ s.commitMap.lookup j.gridId = some j) := by
    refine (Sim.mem_drainGrids_doneSet s j).trans (or_congr_right ⟨?_, ?_⟩)
    · rintro ⟨g, mem, stored⟩
      obtain rfl := c.keyed g j stored
      exact ⟨mem, stored⟩
    · exact fun ⟨mem, stored⟩ => ⟨_, mem, stored⟩
  constructor
  · exact keyed
  · exact c.distinct
  · intro j
    have held := c.hold j
    rw [c.keyed.holdCount] at held
    rw [keyed.holdCount, Sim.drainGrids_bufferQueue, Sim.drainGrids_lookup]
    by_cases stored : s.commitMap.lookup j.gridId = some j
    · have notDone : j ∉ s.doneSet := fun mem => by
        rw [if_pos stored, if_pos mem] at held; split at held <;> omega
      by_cases signalled : j.gridId ∈ s.simDoneGridSet <;>
        simp [signalled, stored, notDone, done] at held ⊢ <;> omega
    · simpa [stored, done] using held
  · exact s.drainGrids_doneSet_nodup c.doneNodup
  · intro j mem
    rw [Sim.drainGrids_aipu] at mem
    obtain ⟨stored, notSignalled⟩ := c.running j mem
    exact ⟨by rw [Sim.drainGrids_lookup, if_neg notSignalled, stored],
      fun mem => notSignalled ((Sim.mem_drainGrids_simDoneGridSet s _).mp mem).1⟩
  · rw [Sim.drainGrids_aipu]; exact c.runningNodup
  · intro g j stored
    rw [Sim.drainGrids_lookup] at stored
    split at stored
    · cases stored
    · rw [Sim.drainGrids_aipu]; exact .inl ((c.ended g j stored).resolve_right ‹_›)
  · intro g mem
    obtain ⟨signalled, absent⟩ := (Sim.mem_drainGrids_simDoneGridSet s g).mp mem
    exact absurd (c.signalled g signalled) absent
  · intro g j stored
    rw [Sim.drainGrids_lookup] at stored
    split at stored
    · cases stored
    · rw [Sim.drainGrids_aipu]; exact c.started g j stored
  · intro j mem
    rw [Sim.drainGrids_aipu]
    rcases (done j).mp mem with old | ⟨signalled, stored⟩
    · exact c.done j old
    · exact ⟨c.started _ _ stored, fun running => (c.running j running).2 signalled⟩

/-- The engine ending a running chain and signalling its grid. -/
theorem Sim.Conserved.gridEnd (c : s.Conserved P) {job : Job} (running : job ∈ s.aipu.running) :
    (s.gridEnd job).Conserved P := by
  obtain ⟨stored, -⟩ := c.running job running
  have erased {j : Job} : j ∈ s.aipu.running.erase job ↔ j ≠ job ∧ j ∈ s.aipu.running :=
    c.runningNodup.mem_erase_iff
  constructor
  · exact c.keyed
  · exact c.distinct
  · exact c.hold
  · exact c.doneNodup
  · intro j mem
    rw [Sim.gridEnd_running, erased] at mem
    obtain ⟨other, mem⟩ := mem
    obtain ⟨stored', notSignalled⟩ := c.running j mem
    refine ⟨stored', ?_⟩
    rw [Sim.gridEnd_simDoneGridSet, List.mem_insert_iff]
    rintro (same | signalled)
    · exact other (Option.some.inj ((same ▸ stored').symm.trans stored))
    · exact notSignalled signalled
  · rw [Sim.gridEnd_running]; exact c.runningNodup.erase job
  · intro g j stored'
    rw [Sim.gridEnd_running, erased, Sim.gridEnd_simDoneGridSet, List.mem_insert_iff]
    by_cases same : j = job
    · subst same; exact .inr (.inl (c.keyed g j stored').symm)
    · exact (c.ended g j stored').imp (⟨same, ·⟩) .inr
  · intro g mem
    rw [Sim.gridEnd_simDoneGridSet, List.mem_insert_iff] at mem
    rcases mem with rfl | signalled
    · show job.gridId ∈ s.commitMap
      exact AList.lookup_isSome.mp (by rw [stored]; rfl)
    · exact c.signalled g signalled
  · exact c.started
  · intro j mem
    obtain ⟨started, notRunning⟩ := c.done j mem
    exact ⟨started, fun running => notRunning (List.mem_of_mem_erase running)⟩

/-- `poll_status` reporting a done job: it leaves the done set and is no longer pending. -/
theorem Sim.Conserved.report (c : s.Conserved P) {job : Job} (done : job ∈ s.doneSet) :
    ({ s with doneSet := s.doneSet.erase job } : Sim).Conserved (P.erase job) where
  keyed := c.keyed
  distinct := c.distinct.sublist (List.erase_sublist _ _)
  hold j := by
    have held := c.hold j
    simp only [Sim.holdCount, Sim.committed, c.doneNodup.mem_erase_iff,
      c.pending_nodup.mem_erase_iff] at held ⊢
    by_cases same : j = job
    · subst same
      rw [if_pos done, if_pos (c.pending_of_done done)] at held
      simp only [ne_eq, not_true_eq_false, false_and, if_false]
      omega
    · simpa [same] using held
  doneNodup := c.doneNodup.erase job
  running := c.running
  runningNodup := c.runningNodup
  ended := c.ended
  signalled := c.signalled
  started := c.started
  done j mem := c.done j (List.mem_of_mem_erase mem)

variable (k : SimConsts)

theorem Sim.Conserved.fillCommitQueue (c : s.Conserved P) (regVal pick : Nat) :
    (s.fillCommitQueue k regVal pick).Conserved P := by
  rw [Sim.fillCommitQueue_eq]
  split
  · exact c
  · split
    · exact c
    · rename_i job rest queue
      split
      · exact c.bind _
      · exact (c.bind (bindCmdpool s.bindCmdpoolId job pick).2).dispatchHead queue _

theorem Sim.Conserved.drainDoneGrids (c : s.Conserved P) (regVal pick : Nat) :
    (s.drainDoneGrids k regVal pick).Conserved P := by
  unfold Sim.drainDoneGrids
  dsimp only
  split
  · exact c.drainGrids.fillCommitQueue k regVal pick
  · exact c.drainGrids

/-- A `schedule` call that fits: its grid id is fresh, and it dispatches only from an
empty queue. -/
theorem Sim.Conserved.schedule (c : s.Conserved P) {job : Job} {regVal pick : Nat}
    (fresh : ∀ j ∈ P, j.gridId ≠ job.gridId)
    (inOrder : s.cantAddJobFlag = false →
      isCmdpoolFull k job.qos (clampPart k job.partId) s.partitionMode 0 regVal = false →
      s.bufferQueue = []) :
    (s.schedule k job regVal pick).Conserved (P ++ [job]) := by
  rw [Sim.schedule_eq]
  split
  · exact c.enqueue fresh _
  · rename_i idle
    simp only [Bool.or_eq_true, not_or, Bool.not_eq_true] at idle
    have empty := inOrder idle.1 idle.2
    simp only [empty, pushPop]
    exact (c.enqueue fresh _).dispatchHead (by simp [empty]) _

theorem Sim.Conserved.pollStep (c : s.Conserved P) {p : Poller} {free : Bool} {regVal pick : Nat}
    {s' : Sim} {pc : PollPc} (moves : s.pollStep k p free regVal pick = some (s', pc)) :
    s'.Conserved (if pc = .finished then P.erase p.job else P) := by
  unfold Sim.pollStep at moves
  split at moves
  · split at moves <;> cases moves
    · exact c.report ‹_›
    · exact c
  · split at moves
    · cases moves
    · split at moves <;> cases moves
      · rw [if_neg (by split <;> decide)]; exact c
      · exact c
  · split at moves <;> cases moves
    exact c.frame rfl rfl rfl rfl rfl rfl
  · cases moves
    exact c.drainDoneGrids k regVal pick
  · cases moves

/-! ### No step overwrites a commit entry -/

theorem Sim.fillCommitQueue_doneSet (s : Sim) (regVal pick : Nat) :
    (s.fillCommitQueue k regVal pick).doneSet = s.doneSet := by
  rw [Sim.fillCommitQueue_eq]
  split
  · rfl
  · split <;> (try split) <;> rfl

/-- `fill_commit_queue` leaves alone every committed grid and the grid of every done
job. -/
theorem Sim.Conserved.fillCommitQueue_lookup (c : s.Conserved P) (regVal pick : Nat) {g : UInt16}
    (held : g ∈ s.commitMap ∨ ∃ j ∈ s.doneSet, j.gridId = g) :
    (s.fillCommitQueue k regVal pick).commitMap.lookup g = s.commitMap.lookup g := by
  rw [Sim.fillCommitQueue_eq]
  split
  · rfl
  · split
    · rfl
    · rename_i job rest queue
      split
      · rfl
      · obtain ⟨key, apart⟩ := c.head_fresh queue
        refine AList.lookup_insert_ne fun same => ?_
        subst same
        rcases held with mem | ⟨j, mem, same⟩
        · exact key mem
        · exact apart j mem same

/-- A drain removes a commit entry only by moving its job to the done set. -/
theorem Sim.Conserved.drainDoneGrids_keeps (c : s.Conserved P) (regVal pick : Nat) {g : UInt16}
    {j : Job} (stored : s.commitMap.lookup g = some j) :
    (s.drainDoneGrids k regVal pick).commitMap.lookup g = some j ∨
      ((s.drainDoneGrids k regVal pick).commitMap.lookup g = none ∧
        j ∈ (s.drainDoneGrids k regVal pick).doneSet) := by
  have drained : s.drainGrids.commitMap.lookup g = some j ∨
      (s.drainGrids.commitMap.lookup g = none ∧ j ∈ s.drainGrids.doneSet) := by
    rw [Sim.drainGrids_lookup, Sim.mem_drainGrids_doneSet]
    split
    · exact .inr ⟨rfl, .inr ⟨g, ‹_›, stored⟩⟩
    · exact .inl stored
  have held : g ∈ s.drainGrids.commitMap ∨ ∃ j ∈ s.drainGrids.doneSet, j.gridId = g := by
    rcases drained with stored' | ⟨-, done⟩
    · exact .inl (AList.lookup_isSome.mp (by rw [stored']; rfl))
    · exact .inr ⟨j, done, c.keyed g j stored⟩
  unfold Sim.drainDoneGrids
  dsimp only
  split
  · rwa [c.drainGrids.fillCommitQueue_lookup k regVal pick held, Sim.fillCommitQueue_doneSet]
  · exact drained

theorem Sim.Conserved.pollStep_keeps (c : s.Conserved P) {p : Poller} {free : Bool}
    {regVal pick : Nat} {s' : Sim} {pc : PollPc}
    (moves : s.pollStep k p free regVal pick = some (s', pc)) {g : UInt16} {j : Job}
    (stored : s.commitMap.lookup g = some j) :
    s'.commitMap.lookup g = some j ∨ (s'.commitMap.lookup g = none ∧ j ∈ s'.doneSet) := by
  unfold Sim.pollStep at moves
  split at moves
  · split at moves <;> cases moves <;> exact .inl stored
  · split at moves
    · cases moves
    · split at moves <;> cases moves <;> exact .inl stored
  · split at moves <;> cases moves
    exact .inl stored
  · cases moves
    exact c.drainDoneGrids_keeps k regVal pick stored
  · cases moves

theorem Sim.Conserved.schedule_keeps (c : s.Conserved P) {job : Job} {regVal pick : Nat}
    (fresh : ∀ j ∈ P, j.gridId ≠ job.gridId) {g : UInt16} {j : Job}
    (stored : s.commitMap.lookup g = some j) :
    (s.schedule k job regVal pick).commitMap.lookup g = some j := by
  rw [Sim.schedule_eq]
  split
  · exact stored
  · rw [Sim.dispatch_commitMap, AList.lookup_insert_ne]
    · exact stored
    · rintro rfl
      exact fresh j (c.pending_of_lookup stored) (c.keyed _ j stored)

end Conserved

/-! ## Runs whose `schedule` calls fit -/

/-- A step of the system whose `schedule` call fits: no pending job holds the
scheduled job's grid id, and the call does not find the simulator idle and the pool
free while jobs are queued, the one case where `schedule` dispatches another job than
the one it was called with. -/
inductive FitStep (k : SimConsts) : Sys → Sys → Prop
  | schedule (s : Sys) (job : Job) (regVal pick : Nat) (hasSubgraph : 0 < job.subgraphCnt)
    (fresh : ∀ j ∈ s.pending, j.gridId ≠ job.gridId)
    (inOrder : s.sim.cantAddJobFlag = false →
      isCmdpoolFull k job.qos (clampPart k job.partId) s.sim.partitionMode 0 regVal = false →
      s.sim.bufferQueue = []) :
    FitStep k s { s with
      sim := s.sim.schedule k job regVal pick
      scheduled := s.scheduled ++ [job]
      pending := s.pending ++ [job] }
  | other (s s' : Sys) (step : Step k s s') (notSchedule : s'.scheduled = s.scheduled) :
    FitStep k s s'

/-- The states reachable by fitting steps. -/
def FitReach (k : SimConsts) (s : Sys) : Prop :=
  ∃ mode, Relation.ReflTransGen (FitStep k) (Sys.init mode) s

section Fit

variable {k : SimConsts} {s s' : Sys}

theorem FitStep.step (step : FitStep k s s') : Step k s s' := by
  cases step with
  | schedule job regVal pick hasSubgraph => exact .schedule _ job regVal pick hasSubgraph
  | other _ step => exact step

theorem FitReach.reachable (reach : FitReach k s) : Reachable k s :=
  let ⟨mode, run⟩ := reach
  ⟨mode, run.mono fun _ _ => FitStep.step⟩

theorem FitStep.conserved (step : FitStep k s s') (c : s.sim.Conserved s.pending) :
    s'.sim.Conserved s'.pending := by
  cases step with
  | schedule job regVal pick _ fresh inOrder => exact c.schedule k fresh inOrder
  | other _ step notSchedule =>
    cases step with
    | schedule => simp at notSchedule
    | gridEnd job running => exact c.gridEnd running
    | pollCall => exact c
    | poll i p regVal pick sim' pc _ moves => exact c.pollStep k moves

theorem FitStep.keepsEntries (step : FitStep k s s') (c : s.sim.Conserved s.pending) {g : UInt16}
    {j : Job} (stored : s.sim.commitMap.lookup g = some j) :
    s'.sim.commitMap.lookup g = some j ∨
      (s'.sim.commitMap.lookup g = none ∧ j ∈ s'.sim.doneSet) := by
  cases step with
  | schedule job regVal pick _ fresh _ => exact .inl (c.schedule_keeps k fresh stored)
  | other _ step notSchedule =>
    cases step with
    | schedule => simp at notSchedule
    | gridEnd => exact .inl stored
    | pollCall => exact .inl stored
    | poll i p regVal pick sim' pc _ moves => exact c.pollStep_keeps k moves stored

theorem FitReach.conserved (reach : FitReach k s) : s.sim.Conserved s.pending := by
  obtain ⟨mode, run⟩ := reach
  induction run with
  | refl => exact Sim.init_conserved mode
  | tail _ last ih => exact last.conserved ih

end Fit

section Conservation

variable (k : SimConsts)

/-- Along runs whose `schedule` calls fit, every pending job is held exactly once, a job
is done only after the chain it was dispatched with has ended, and no step overwrites
an entry of `m_commit_map`: an entry stays, or the drain removes it and its job is
done. -/
theorem fit_runs_conserve_jobs {s s' : Sys} (reach : FitReach k s) (step : FitStep k s s') :
    (∀ j ∈ s.pending, s.sim.holdCount j = 1) ∧
    (∀ j ∈ s.sim.doneSet, j ∈ s.sim.aipu.started ∧ j ∉ s.sim.aipu.running) ∧
    ∀ g j, s.sim.commitMap.lookup g = some j →
      s'.sim.commitMap.lookup g = some j ∨
        (s'.sim.commitMap.lookup g = none ∧ j ∈ s'.sim.doneSet) := by
  have c := reach.conserved
  exact ⟨fun j mem => by rw [c.hold, if_pos mem], c.done,
    fun _ _ stored => step.keepsEntries c stored⟩

theorem fit_runs_conserve_jobs_ended :
    ∃ s s' : Sys, FitReach ⟨0, 1, 0⟩ s ∧ FitStep ⟨0, 1, 0⟩ s s' ∧ s.pending = [jobA] ∧
      (∀ j ∈ s.pending, s.sim.holdCount j = 1) ∧
      (∀ j ∈ s.sim.doneSet, j ∈ s.sim.aipu.started ∧ j ∉ s.sim.aipu.running) ∧
      ∀ g j, s.sim.commitMap.lookup g = some j →
        s'.sim.commitMap.lookup g = some j ∨
          (s'.sim.commitMap.lookup g = none ∧ j ∈ s'.sim.doneSet) := by
  let s : Sys :=
    { Sys.init 0 with sim := (Sys.init 0).sim.schedule ⟨0, 1, 0⟩ jobA 0 0, pending := [jobA] }
  have first : FitStep ⟨0, 1, 0⟩ (Sys.init 0) { s with scheduled := [jobA] } :=
    .schedule (Sys.init 0) jobA 0 0 (by decide) (by simp [Sys.init]) fun _ _ => rfl
  have ended : FitStep ⟨0, 1, 0⟩ { s with scheduled := [jobA] } _ :=
    .other _ _ (.gridEnd _ jobA (by decide)) rfl
  exact ⟨_, _, ⟨0, .single first⟩, ended, rfl,
    fit_runs_conserve_jobs _ ⟨0, .single first⟩ ended⟩

end Conservation

/-! ## A run that loses a job -/

/-- `jobA` is queued behind full pools; `jobB`'s `schedule` dispatches it under `jobB`'s
grid id; after `jobA`'s chain ends, a `poll_status` call for `jobB` waits on the commit
entry of `jobB`'s grid, wakes, finds no entry for `jobA`'s grid to drain, and lets
`fill_commit_queue` dispatch `jobB` under the same key. -/
def misKeyed : List Action :=
  [.schedule jobA 0xffff 0, .schedule jobB 0 0, .gridEnd jobA, .pollCall jobB,
    .poll 0 0 0, .poll 0 0 0, .poll 0 0 0, .poll 0 0 0]

theorem misKeyed_loses_job :
    ∃ s, (∀ k, (Sys.init 0).run k misKeyed = some s ∧ Reachable k s) ∧
      jobA ∈ s.pending ∧ s.sim.holdCount jobA = 0 :=
  ⟨_, Sys.run_init_any (by decide) 0 rfl, by decide⟩

end AipuUmd
