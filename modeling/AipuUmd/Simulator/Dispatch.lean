import AipuUmd.Simulator.System

/-!
# Dispatch order and the size of the commit map

Both dispatch paths, `schedule` and `fill_commit_queue`, take the head of
`m_buffer_queue`. So the chains the engine was given, followed by the jobs still
queued, are the jobs in the order their `schedule` calls took the lock
(`Sim.startedQueue`), and the dispatch order is a prefix of the schedule order
(`started_prefix_scheduled`).

`fill_commit_queue` refuses to dispatch once `m_commit_map` holds 16 entries, and
`schedule` dispatches only while the busy flag is clear, which a drain sets only
after removing an entry. Every reachable state therefore keeps `Sim.CommitBound`.
-/

namespace AipuUmd

/-! ## Dispatch order -/

/-- The chains the engine was given, then the jobs still queued. -/
def Sim.startedQueue (s : Sim) : List Job := s.aipu.started ++ s.bufferQueue

section Order

variable (k : SimConsts)

theorem Sim.schedule_startedQueue (s : Sim) (job : Job) (regVal pick : Nat) :
    (s.schedule k job regVal pick).startedQueue = s.startedQueue ++ [job] := by
  unfold Sim.schedule Sim.startedQueue
  dsimp only
  split
  · simp
  · simp only [Sim.dispatch_started, Sim.dispatch_bufferQueue, List.append_assoc,
      List.singleton_append, pushPop_cons]

theorem Sim.fillCommitQueue_startedQueue (s : Sim) (regVal pick : Nat) :
    (s.fillCommitQueue k regVal pick).startedQueue = s.startedQueue := by
  rw [Sim.fillCommitQueue_eq]
  split
  · rfl
  · split
    · rfl
    · rename_i job rest queue
      split <;> simp [Sim.startedQueue, queue]

theorem Sim.drainDoneGrids_startedQueue (s : Sim) (regVal pick : Nat) :
    (s.drainDoneGrids k regVal pick).startedQueue = s.startedQueue := by
  have drained : s.drainGrids.startedQueue = s.startedQueue := by
    simp only [Sim.drainGrids, Sim.startedQueue, foldl_drainGrid_preserves Sim.aipu drainGrid_aipu,
      foldl_drainGrid_preserves Sim.bufferQueue drainGrid_bufferQueue]
  unfold Sim.drainDoneGrids
  dsimp only
  split
  · rw [Sim.fillCommitQueue_startedQueue]; exact drained
  · exact drained

theorem Sim.pollStep_startedQueue {s s' : Sim} {p : Poller} {free : Bool} {regVal pick : Nat}
    {pc : PollPc} (moves : s.pollStep k p free regVal pick = some (s', pc)) :
    s'.startedQueue = s.startedQueue := by
  unfold Sim.pollStep at moves
  split at moves <;> (try split at moves) <;> (try split at moves) <;>
    simp only [Option.some.injEq, Prod.mk.injEq, reduceCtorEq] at moves <;>
    obtain ⟨rfl, -⟩ := moves
  all_goals first | rfl | exact Sim.drainDoneGrids_startedQueue k s regVal pick

/-- Every step adds to the schedule order exactly the job it schedules, and moves
dispatched jobs from the queue to the engine without reordering. -/
theorem Step.startedQueue {s s' : Sys} (step : Step k s s')
    (order : s.sim.startedQueue = s.scheduled) : s'.sim.startedQueue = s'.scheduled := by
  cases step with
  | schedule job regVal pick _ =>
    simp only [Sim.schedule_startedQueue, order]
  | gridEnd => exact order
  | pollCall => exact order
  | poll i p regVal pick sim' pc _ moves =>
    exact (Sim.pollStep_startedQueue k moves).trans order

/-- The jobs dispatched to the engine, by `schedule` or by `fill_commit_queue`, are
always a prefix of the jobs in the order their `schedule` calls took the lock. -/
theorem started_prefix_scheduled {s : Sys} (reach : Reachable k s) :
    s.sim.aipu.started <+: s.scheduled := by
  have order : s.sim.startedQueue = s.scheduled :=
    reach.inv (P := fun s => s.sim.startedQueue = s.scheduled) (fun _ => rfl)
      fun _ _ inv step => step.startedQueue k inv
  exact ⟨s.sim.bufferQueue, order⟩

theorem started_prefix_scheduled_queued :
    ∃ s, (Sys.init 0).run ⟨0, 1, 0⟩ [.schedule jobA 0 0, .schedule jobB 0 0] = some s ∧
      s.sim.aipu.started = [jobA] ∧ s.scheduled = [jobA, jobB] ∧
      s.sim.aipu.started <+: s.scheduled := by
  obtain ⟨s, done, facts⟩ : ∃ s,
      (Sys.init 0).run ⟨0, 1, 0⟩ [.schedule jobA 0 0, .schedule jobB 0 0] = some s ∧
      s.sim.aipu.started = [jobA] ∧ s.scheduled = [jobA, jobB] := ⟨_, rfl, by decide⟩
  exact ⟨s, done, facts.1, facts.2, started_prefix_scheduled _ ⟨0, Sys.run_reaches done⟩⟩

end Order

/-! ## The commit map holds at most 16 entries -/

/-- `fill_commit_queue`'s cap on `m_commit_map`, with a free entry whenever the busy
flag is clear. -/
def Sim.CommitBound (s : Sim) : Prop :=
  s.commitSize ≤ 16 ∧ (s.cantAddJobFlag = false → s.commitSize ≤ 15)

theorem commitMap_insert_keys_le (m : AList (fun _ : UInt16 => Job)) (key : UInt16) (job : Job) :
    (m.insert key job).keys.length ≤ m.keys.length + 1 := by
  rw [AList.keys_insert, List.length_cons]
  exact Nat.succ_le_succ (List.length_erase_le _ _)

theorem commitMap_erase_keys {m : AList (fun _ : UInt16 => Job)} {g : UInt16} (mem : g ∈ m) :
    (m.erase g).keys.length + 1 = m.keys.length := by
  have present := AList.mem_keys.mp mem
  rw [AList.keys_erase, List.length_erase_of_mem present]
  have := List.length_pos_of_mem present
  omega

theorem Sim.dispatch_commitBound (s : Sim) (job : Job) (rest : List Job) (key : UInt16)
    (ws : List RegWrite) (room : s.commitSize ≤ 15) : (s.dispatch job rest key ws).CommitBound := by
  have grown := commitMap_insert_keys_le s.commitMap key job
  refine ⟨?_, fun busy => nomatch busy⟩
  simp only [Sim.commitSize, Sim.dispatch_commitMap] at room ⊢
  omega

theorem drainGrid_commitBound (acc : Sim × List UInt16) (g : UInt16) (bound : acc.1.CommitBound) :
    (drainGrid acc g).1.CommitBound := by
  unfold drainGrid
  split
  · rename_i job found
    have shrunk := commitMap_erase_keys (AList.lookup_isSome.mp (by rw [found]; rfl))
    simp only [Sim.CommitBound, Sim.commitSize] at bound ⊢
    omega
  · exact bound

section Bound

variable (k : SimConsts)

theorem Sim.schedule_commitBound (s : Sim) (job : Job) (regVal pick : Nat)
    (bound : s.CommitBound) : (s.schedule k job regVal pick).CommitBound := by
  rw [Sim.schedule_eq]
  split
  · exact bound
  · rename_i free
    simp only [Bool.or_eq_true, not_or, Bool.not_eq_true] at free
    exact Sim.dispatch_commitBound _ _ _ _ _ (bound.2 free.1)

theorem Sim.fillCommitQueue_commitBound (s : Sim) (regVal pick : Nat) (bound : s.CommitBound) :
    (s.fillCommitQueue k regVal pick).CommitBound := by
  rw [Sim.fillCommitQueue_eq]
  split
  · exact bound
  · rename_i room
    split
    · exact bound
    · split
      · exact bound
      · exact Sim.dispatch_commitBound _ _ _ _ _ (by simp only [Sim.commitSize] at room ⊢; omega)

theorem Sim.drainDoneGrids_commitBound (s : Sim) (regVal pick : Nat) (bound : s.CommitBound) :
    (s.drainDoneGrids k regVal pick).CommitBound := by
  have drained : s.drainGrids.CommitBound :=
    foldl_drainGrid_inv Sim.CommitBound drainGrid_commitBound _ _ bound
  unfold Sim.drainDoneGrids
  dsimp only
  split
  · exact Sim.fillCommitQueue_commitBound k _ regVal pick drained
  · exact drained

theorem Step.commitBound {s s' : Sys} (step : Step k s s') (bound : s.sim.CommitBound) :
    s'.sim.CommitBound := by
  cases step with
  | schedule job regVal pick _ => exact Sim.schedule_commitBound k _ job regVal pick bound
  | gridEnd => exact bound
  | pollCall => exact bound
  | poll i p regVal pick sim' pc _ moves =>
    unfold Sim.pollStep at moves
    split at moves <;> (try split at moves) <;> (try split at moves) <;>
      simp only [Option.some.injEq, Prod.mk.injEq, reduceCtorEq] at moves <;>
      obtain ⟨rfl, -⟩ := moves
    all_goals first | exact bound | exact Sim.drainDoneGrids_commitBound k _ regVal pick bound

/-- In every reachable state `m_commit_map` holds at most 16 dispatched jobs, the
cap `fill_commit_queue` checks, and at most 15 while `m_cant_add_job_flag` is clear. -/
theorem commitMap_size_le_sixteen {s : Sys} (reach : Reachable k s) :
    s.sim.commitSize ≤ 16 ∧ (s.sim.cantAddJobFlag = false → s.sim.commitSize ≤ 15) :=
  reach.inv (P := fun s => s.sim.CommitBound) (fun _ => ⟨Nat.zero_le _, fun _ => Nat.zero_le _⟩)
    fun _ _ bound step => step.commitBound k bound

theorem commitMap_size_le_sixteen_queued :
    ∃ s, (Sys.init 0).run ⟨0, 1, 0⟩ [.schedule jobA 0 0, .schedule jobB 0 0] = some s ∧
      s.sim.commitSize ≤ 16 ∧ (s.sim.cantAddJobFlag = false → s.sim.commitSize ≤ 15) := by
  obtain ⟨s, done⟩ : ∃ s,
      (Sys.init 0).run ⟨0, 1, 0⟩ [.schedule jobA 0 0, .schedule jobB 0 0] = some s := ⟨_, rfl⟩
  exact ⟨s, done, commitMap_size_le_sixteen _ ⟨0, Sys.run_reaches done⟩⟩

end Bound

/-! ## Runs from a fresh simulator -/

/-- `schedule` pops the head of the queue but keys it under the grid id of the job it
was called with, and takes the create command's fields from that job too. With
`jobA` queued behind full pools and `jobB` then finding its pool free, the engine
runs `jobA`'s chain while the only entry of `m_commit_map` is
`grid_id(jobB) ↦ jobA`; the create command carries `jobB`'s QoS and pool, and the
dispatch command carries no partition, pool or QoS field. -/
theorem schedule_commits_head_under_scheduled_grid :
    ∀ k : SimConsts, ∃ s,
      (Sys.init 0).run k [.schedule jobA 0xffff 3, .schedule jobB 0 5] = some s ∧
      s.sim.aipu.started = [jobA] ∧
      s.sim.commitMap.entries = [⟨jobB.gridId, jobA⟩] ∧
      s.sim.aipu.writes = [.schedAddrHi 0, .schedAddrLo 0x1000, .tcbNumber 21,
        .schedCtrl (ctrlFields 0 5 jobB.qos) .create, .schedCtrl 0 .dispatch] := by
  intro k
  rw [Sys.run_consts k ⟨0, 0, 0⟩ (by decide) (Sys.init_queuePlain 0)]
  exact ⟨_, rfl, by decide⟩

/-- A completion that `poll_status` drains without waiting leaves
`simv3_1_has_grid_done` set. `jobA` runs and ends, and its poller drains it
directly. `jobB` is then dispatched and `jobC` queued; `jobB`'s poller passes its
wait on the stale flag, drains nothing, and `fill_commit_queue` dispatches `jobC`
while `jobB`'s chain still runs. -/
def staleWakeup : List Action :=
  [.schedule jobA 0 0, .gridEnd jobA, .pollCall jobA,
    .poll 0 0 0, .poll 0 0 0, .poll 0 0 0, .poll 0 0 0,
    .schedule jobB 0 0, .schedule jobC 0 0, .pollCall jobB,
    .poll 1 0 0, .poll 1 0 0, .poll 1 0 0, .poll 1 0 0]

theorem staleWakeup_commits_two :
    ∃ s, (∀ k, (Sys.init 0).run k staleWakeup = some s ∧ Reachable k s) ∧
      s.sim.commitSize = 2 ∧ jobB ∈ s.sim.aipu.running ∧ jobC ∈ s.sim.aipu.running :=
  ⟨_, Sys.run_init_any (by decide) 0 rfl, by decide⟩

end AipuUmd
