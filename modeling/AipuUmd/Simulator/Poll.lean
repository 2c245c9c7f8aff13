import AipuUmd.Simulator.Conservation

/-!
# When a `poll_status` call returns

`poll_status` loops: it reports the job if it is in `m_done_set`; otherwise it takes
`m_poll_mtex` and, if the job's grid id is a key of `m_commit_map`, waits for a grid
to finish and drains; if the key is absent it goes round again. Nothing in that round
changes the simulator, so a call whose job is neither done nor committed spins for
ever: a call for a job still queued behind a chain that has already ended never
drains that chain's grid, never refills, and never returns (`pollQueued_spins`).

A call for a job that has left the queue does return. `PollPhase` is one step while
the call runs alone and no job is scheduled: a step of the call, or the engine ending
a chain. Along fitting runs, `CallInv` holds from the call's entry and
`callMeasure` decreases at every step of the phase, lexicographically: the call
returns or its job becomes done, a queued job is dispatched, a chain ends, or the
call moves on in its loop (`poll_returns`).
-/

namespace AipuUmd

section Frames

variable (k : SimConsts)

theorem Sim.fillCommitQueue_hasGridDone (s : Sim) (regVal pick : Nat) :
    (s.fillCommitQueue k regVal pick).hasGridDone = s.hasGridDone := by
  rw [Sim.fillCommitQueue_eq]
  split
  · rfl
  · split <;> (try split) <;> rfl

/-- `fill_commit_queue` dispatches a queued job, or leaves the queue and the engine
alone. -/
theorem Sim.fillCommitQueue_progress (s : Sim) (regVal pick : Nat) :
    (s.fillCommitQueue k regVal pick).bufferQueue.length < s.bufferQueue.length ∨
      ((s.fillCommitQueue k regVal pick).bufferQueue = s.bufferQueue ∧
        (s.fillCommitQueue k regVal pick).aipu.running = s.aipu.running) := by
  rw [Sim.fillCommitQueue_eq]
  split
  · exact .inr ⟨rfl, rfl⟩
  · split
    · exact .inr ⟨rfl, rfl⟩
    · rename_i job rest queue
      split
      · exact .inr ⟨rfl, rfl⟩
      · exact .inl (by simp [queue])

theorem Sim.drainGrids_hasGridDone (s : Sim) : s.drainGrids.hasGridDone = s.hasGridDone :=
  foldl_drainGrid_preserves Sim.hasGridDone (fun acc g => by unfold drainGrid; split <;> rfl) _ _

theorem Sim.drainDoneGrids_hasGridDone (s : Sim) (regVal pick : Nat) :
    (s.drainDoneGrids k regVal pick).hasGridDone = s.hasGridDone := by
  unfold Sim.drainDoneGrids
  dsimp only
  split
  · rw [Sim.fillCommitQueue_hasGridDone, Sim.drainGrids_hasGridDone]
  · exact s.drainGrids_hasGridDone

theorem Sim.drainDoneGrids_doneSet (s : Sim) (regVal pick : Nat) :
    (s.drainDoneGrids k regVal pick).doneSet = s.drainGrids.doneSet := by
  unfold Sim.drainDoneGrids
  dsimp only
  split
  · exact Sim.fillCommitQueue_doneSet k _ regVal pick
  · rfl

theorem Sim.drainDoneGrids_progress (s : Sim) (regVal pick : Nat) :
    (s.drainDoneGrids k regVal pick).bufferQueue.length < s.bufferQueue.length ∨
      ((s.drainDoneGrids k regVal pick).bufferQueue = s.bufferQueue ∧
        (s.drainDoneGrids k regVal pick).aipu.running = s.aipu.running) := by
  unfold Sim.drainDoneGrids
  dsimp only
  rw [← s.drainGrids_bufferQueue, ← congrArg Aipu.running s.drainGrids_aipu]
  split
  · exact s.drainGrids.fillCommitQueue_progress k regVal pick
  · exact .inr ⟨rfl, rfl⟩

end Frames

/-- A pending job that has left the queue is either done, and its grid id is no key,
or committed under its grid id and not done. -/
theorem Sim.Conserved.dispatched_held {s : Sim} {P : List Job} (c : s.Conserved P) {job : Job}
    (pending : job ∈ P) (dispatched : job ∉ s.bufferQueue) :
    (job ∈ s.doneSet ∧ job.gridId ∉ s.commitMap) ∨
      (job ∉ s.doneSet ∧ s.commitMap.lookup job.gridId = some job) := by
  have held := c.hold job
  rw [c.keyed.holdCount, List.count_eq_zero_of_not_mem dispatched, if_pos pending] at held
  by_cases done : job ∈ s.doneSet
  · refine .inl ⟨done, fun mem => ?_⟩
    obtain ⟨j, stored⟩ := Option.isSome_iff_exists.mp (AList.lookup_isSome.mpr mem)
    obtain rfl := c.eq_of_gridId (c.pending_of_lookup stored) pending (c.keyed _ j stored)
    rw [if_pos stored, if_pos done] at held
    omega
  · rw [if_neg done] at held
    exact .inr ⟨done, by split at held <;> first | assumption | omega⟩

/-! ## The phase of one call -/

/-- A step while the `poll_status` call `i` runs and no job is scheduled: a step of the
call, or the engine ending a chain. -/
inductive PollPhase (k : SimConsts) (i : Nat) : Sys → Sys → Prop
  | poll (s : Sys) (p : Poller) (regVal pick : Nat) (sim' : Sim) (pc : PollPc)
    (at_i : s.pollers.get? i = some p)
    (moves : s.sim.pollStep k p s.pollMtexFree regVal pick = some (sim', pc)) :
    PollPhase k i s { s with
      sim := sim'
      pollers := s.pollers.set i ⟨p.job, pc⟩
      pending := if pc = .finished then s.pending.erase p.job else s.pending }
  | gridEnd (s : Sys) (job : Job) (running : job ∈ s.sim.aipu.running) :
    PollPhase k i s { s with sim := s.sim.gridEnd job }

theorem PollPhase.fitStep {k : SimConsts} {i : Nat} {s s' : Sys} (step : PollPhase k i s s') :
    FitStep k s s' := by
  cases step with
  | poll p regVal pick sim' pc at_i moves =>
    exact .other _ _ (.poll _ i p regVal pick sim' pc at_i moves) rfl
  | gridEnd job running => exact .other _ _ (.gridEnd _ job running) rfl

/-- What the call `i` for `job` keeps while it runs alone: the simulator's invariant,
the other calls have returned, and where the call is. A call in flight is for a
pending job that has left the queue; a returned call reported its job; a waiting call's
grid is committed and, once signalled, has raised `simv3_1_has_grid_done`. -/
structure CallInv (i : Nat) (job : Job) (s : Sys) (pc : PollPc) : Prop where
  conserved : s.sim.Conserved s.pending
  alone : ∀ l ≠ i, ∀ p, s.pollers.get? l = some p → p.pc = .finished
  at_i : s.pollers.get? i = some ⟨job, pc⟩
  returned : pc = .finished → job ∉ s.pending
  inFlight : pc ≠ .finished → job ∈ s.pending ∧ job ∉ s.sim.bufferQueue
  waiting : pc = .waiting →
    job.gridId ∈ s.sim.commitMap ∧ (job.gridId ∈ s.sim.simDoneGridSet → s.sim.hasGridDone = true)

/-- The place of the call in its loop. A drain of the call's own signalled grid comes
last: it makes the job done. -/
def loopRank (job : Job) (s : Sim) : PollPc → Nat
  | .checkDone => 3
  | .checkCommit => 2
  | .waiting => 1
  | .drain => if job.gridId ∈ s.simDoneGridSet then 0 else 4
  | .finished => 0

/-- How far the call for `job` at `pc` is from returning: whether it has returned or its
job is done, then the queued jobs, the running chains, and its place in the loop with
the wake-up flag. -/
def callMeasure (job : Job) (s : Sim) (pc : PollPc) : Nat × Nat × Nat × Nat :=
  (if pc = .finished then 0 else if job ∈ s.doneSet then (if pc = .checkDone then 1 else 2) else 3,
    s.bufferQueue.length, s.aipu.running.length,
    (if s.hasGridDone then 4 else 0) + loopRank job s pc)

/-- The lexicographic order on measures. -/
def CallOrder : Nat × Nat × Nat × Nat → Nat × Nat × Nat × Nat → Prop :=
  Prod.Lex (· < ·) (Prod.Lex (· < ·) (Prod.Lex (· < ·) (· < ·)))

theorem callOrder_wf : WellFounded CallOrder :=
  (Prod.lex Nat.lt_wfRel (Prod.lex Nat.lt_wfRel (Prod.lex Nat.lt_wfRel Nat.lt_wfRel))).wf

section Order

variable {m m' : Nat × Nat × Nat × Nat}

theorem CallOrder.done (lt : m.1 < m'.1) : CallOrder m m' := Prod.lex_def.mpr (.inl lt)

theorem CallOrder.queue (same : m.1 = m'.1) (lt : m.2.1 < m'.2.1) : CallOrder m m' :=
  Prod.lex_def.mpr (.inr ⟨same, Prod.lex_def.mpr (.inl lt)⟩)

theorem CallOrder.running (same : m.1 = m'.1) (queue : m.2.1 = m'.2.1)
    (lt : m.2.2.1 < m'.2.2.1) : CallOrder m m' :=
  Prod.lex_def.mpr (.inr ⟨same, Prod.lex_def.mpr (.inr ⟨queue, Prod.lex_def.mpr (.inl lt)⟩)⟩)

theorem CallOrder.loop (same : m.1 = m'.1) (queue : m.2.1 = m'.2.1) (running : m.2.2.1 = m'.2.2.1)
    (lt : m.2.2.2 < m'.2.2.2) : CallOrder m m' :=
  Prod.lex_def.mpr (.inr ⟨same, Prod.lex_def.mpr (.inr ⟨queue, Prod.lex_def.mpr (.inr ⟨running, lt⟩)⟩)⟩)

end Order

section Call

variable {k : SimConsts} {i : Nat} {job : Job} {s : Sys} {pc : PollPc}

/-- Only the call can hold `m_poll_mtex`, and it does not while it tests the commit
map. -/
theorem CallInv.pollMtexFree (inv : CallInv i job s pc) (notHeld : pc ≠ .waiting ∧ pc ≠ .drain) :
    s.pollMtexFree = true := by
  simp only [Sys.pollMtexFree, Bool.not_eq_true', List.any_eq_false]
  intro p mem
  obtain ⟨l, at_l⟩ := List.get?_of_mem mem
  by_cases same : l = i
  · subst same
    rw [inv.at_i] at at_l
    cases at_l
    simp [Poller.holdsPollMtex, notHeld.1, notHeld.2]
  · simp [Poller.holdsPollMtex, inv.alone l same p at_l]

theorem CallInv.live (inv : CallInv i job s pc) {free : Bool} {regVal pick : Nat}
    {sim' : Sim} {pc' : PollPc}
    (moves : s.sim.pollStep k ⟨job, pc⟩ free regVal pick = some (sim', pc')) :
    job ∈ s.pending ∧ job ∉ s.sim.bufferQueue :=
  inv.inFlight fun finished => by subst finished; simp [Sim.pollStep] at moves

/-- A step of the call keeps the invariant, given the waiting clause for where it
lands. -/
theorem CallInv.poll (inv : CallInv i job s pc) {regVal pick : Nat} {sim' : Sim} {pc' : PollPc}
    (moves : s.sim.pollStep k ⟨job, pc⟩ s.pollMtexFree regVal pick = some (sim', pc'))
    (waiting : pc' = .waiting → job.gridId ∈ sim'.commitMap ∧
      (job.gridId ∈ sim'.simDoneGridSet → sim'.hasGridDone = true)) :
    CallInv i job { s with
      sim := sim'
      pollers := s.pollers.set i ⟨job, pc'⟩
      pending := if pc' = .finished then s.pending.erase job else s.pending } pc' where
  conserved := inv.conserved.pollStep k moves
  alone l other p at_l := inv.alone l other p (by
    rwa [List.get?_eq_getElem?, List.getElem?_set_ne (Ne.symm other), ← List.get?_eq_getElem?]
      at at_l)
  at_i := by
    have at_i := inv.at_i
    rw [List.get?_eq_getElem?] at at_i ⊢
    obtain ⟨lt, -⟩ := List.getElem?_eq_some_iff.mp at_i
    simp [List.getElem?_set, lt]
  returned finished := by
    rw [if_pos finished]
    exact fun mem => (inv.conserved.pending_nodup.mem_erase_iff.mp mem).1 rfl
  inFlight notFinished := by
    rw [if_neg notFinished]
    obtain ⟨pending, notQueued⟩ := inv.live moves
    exact ⟨pending, fun mem => notQueued (Sim.pollStep_queue_mem k moves mem)⟩
  waiting := waiting

/-- Every step of the call lowers the measure, and lands where the waiting clause holds. -/
theorem CallInv.poll_lt (inv : CallInv i job s pc) {regVal pick : Nat} {sim' : Sim}
    {pc' : PollPc} (moves : s.sim.pollStep k ⟨job, pc⟩ s.pollMtexFree regVal pick = some (sim', pc')) :
    (pc' = .waiting → job.gridId ∈ sim'.commitMap ∧
      (job.gridId ∈ sim'.simDoneGridSet → sim'.hasGridDone = true)) ∧
    CallOrder (callMeasure job sim' pc') (callMeasure job s.sim pc) := by
  have c := inv.conserved
  obtain ⟨pending, notQueued⟩ := inv.live moves
  cases pc with
  | finished => simp only [Sim.pollStep, reduceCtorEq] at moves
  | checkDone =>
    simp only [Sim.pollStep] at moves
    split at moves <;> cases moves
    · exact ⟨nofun, .done (by simp only [callMeasure, ↓reduceIte, reduceCtorEq, Nat.lt_add_one, *])⟩
    · exact ⟨nofun, .loop (by simp only [callMeasure, ↓reduceIte, reduceCtorEq, *]) rfl rfl
        (by simp only [callMeasure, loopRank, ↓reduceIte, reduceCtorEq]; omega)⟩
  | checkCommit =>
    simp only [Sim.pollStep] at moves
    split at moves
    · cases moves
    · split at moves <;> cases moves
      · rename_i committed
        have notDone : job ∉ s.sim.doneSet := by
          rcases c.dispatched_held pending notQueued with ⟨-, absent⟩ | ⟨notDone, -⟩
          exacts [absurd committed absent, notDone]
        by_cases signalled : job.gridId ∈ s.sim.simDoneGridSet <;>
          simp only [signalled, if_true, if_false]
        · exact ⟨nofun,
            .loop (by simp only [callMeasure, ↓reduceIte, reduceCtorEq, notDone]) rfl rfl
              (by simp only [callMeasure, loopRank, ↓reduceIte, reduceCtorEq, signalled]; omega)⟩
        · exact ⟨fun _ => ⟨committed, False.elim⟩,
            .loop (by simp only [callMeasure, ↓reduceIte, reduceCtorEq, notDone]) rfl rfl
              (by simp only [callMeasure, loopRank, ↓reduceIte, reduceCtorEq]; omega)⟩
      · rename_i absent
        rcases c.dispatched_held pending notQueued with ⟨done, -⟩ | ⟨-, stored⟩
        · exact ⟨nofun, .done (by simp only [callMeasure, ↓reduceIte, reduceCtorEq, done]; omega)⟩
        · exact absurd (AList.lookup_isSome.mp (by rw [stored]; rfl)) absent
  | waiting =>
    obtain ⟨committed, -⟩ := inv.waiting rfl
    have notDone : job ∉ s.sim.doneSet := by
      rcases c.dispatched_held pending notQueued with ⟨-, absent⟩ | ⟨notDone, -⟩
      exacts [absurd committed absent, notDone]
    simp only [Sim.pollStep] at moves
    split at moves <;> cases moves
    rename_i woken
    refine ⟨nofun, .loop (by simp only [callMeasure, ↓reduceIte, reduceCtorEq, notDone]) rfl rfl ?_⟩
    by_cases signalled : job.gridId ∈ s.sim.simDoneGridSet <;>
      simp only [callMeasure, loopRank, ↓reduceIte, reduceCtorEq, woken, signalled] <;> omega
  | drain =>
    simp only [Sim.pollStep] at moves
    cases moves
    refine ⟨nofun, ?_⟩
    have doneSet := Sim.drainDoneGrids_doneSet k s.sim regVal pick
    rcases c.dispatched_held pending notQueued with ⟨done, -⟩ | ⟨notDone, stored⟩
    · have done' : job ∈ (s.sim.drainDoneGrids k regVal pick).doneSet := by
        rw [doneSet, Sim.mem_drainGrids_doneSet]; exact .inl done
      exact .done (by simp only [callMeasure, ↓reduceIte, reduceCtorEq, done, done']; omega)
    · by_cases signalled : job.gridId ∈ s.sim.simDoneGridSet
      · have done' : job ∈ (s.sim.drainDoneGrids k regVal pick).doneSet := by
          rw [doneSet, Sim.mem_drainGrids_doneSet]; exact .inr ⟨_, signalled, stored⟩
        exact .done (by simp only [callMeasure, ↓reduceIte, reduceCtorEq, notDone, done']; omega)
      · have notDone' : job ∉ (s.sim.drainDoneGrids k regVal pick).doneSet := by
          rw [doneSet, Sim.mem_drainGrids_doneSet]
          rintro (done | ⟨g, mem, stored'⟩)
          · exact notDone done
          · exact signalled (c.keyed g job stored' ▸ mem)
        have same : (callMeasure job (s.sim.drainDoneGrids k regVal pick) .checkDone).1 =
            (callMeasure job s.sim .drain).1 := by
          simp only [callMeasure, ↓reduceIte, reduceCtorEq, notDone, notDone']
        rcases Sim.drainDoneGrids_progress k s.sim regVal pick with shorter | ⟨queue, running⟩
        · exact .queue same shorter
        · refine .loop same (congrArg List.length queue) (congrArg List.length running) ?_
          simp only [callMeasure, loopRank, ↓reduceIte, signalled, Sim.drainDoneGrids_hasGridDone]
          omega

/-- The engine ending a chain keeps the invariant and shortens the running chains. -/
theorem CallInv.gridEnd (inv : CallInv i job s pc) {j : Job} (running : j ∈ s.sim.aipu.running) :
    CallInv i job { s with sim := s.sim.gridEnd j } pc ∧
      CallOrder (callMeasure job (s.sim.gridEnd j) pc) (callMeasure job s.sim pc) := by
  refine ⟨⟨inv.conserved.gridEnd running, inv.alone, inv.at_i, inv.returned, inv.inFlight,
    fun waiting => ⟨(inv.waiting waiting).1, fun _ => rfl⟩⟩, .running rfl rfl ?_⟩
  have shorter := List.length_erase_of_mem running
  have nonempty := List.length_pos_of_mem running
  simp only [callMeasure, Sim.gridEnd_running, shorter]
  omega

theorem CallInv.step (inv : CallInv i job s pc) {s' : Sys} (step : PollPhase k i s s') :
    ∃ pc', CallInv i job s' pc' ∧ CallOrder (callMeasure job s'.sim pc') (callMeasure job s.sim pc) := by
  cases step with
  | poll p regVal pick sim' pc' at_i moves =>
    rw [inv.at_i] at at_i
    cases at_i
    obtain ⟨waiting, lt⟩ := inv.poll_lt moves
    exact ⟨pc', inv.poll moves waiting, lt⟩
  | gridEnd j running =>
    obtain ⟨inv', lt⟩ := inv.gridEnd running
    exact ⟨pc, inv', lt⟩

/-- Until the call returns, it can take a step or the engine can end a chain. -/
theorem CallInv.progress (inv : CallInv i job s pc) (live : pc ≠ .finished) :
    ∃ s', PollPhase k i s s' := by
  have moves (enabled : (s.sim.pollStep k ⟨job, pc⟩ s.pollMtexFree 0 0).isSome) :
      ∃ s', PollPhase k i s s' := by
    obtain ⟨⟨sim', pc'⟩, moves⟩ := Option.isSome_iff_exists.mp enabled
    exact ⟨_, .poll s ⟨job, pc⟩ 0 0 sim' pc' inv.at_i moves⟩
  cases pc with
  | finished => exact absurd rfl live
  | checkDone => exact moves (by simp only [Sim.pollStep]; split <;> rfl)
  | checkCommit =>
    refine moves ?_
    simp only [Sim.pollStep, inv.pollMtexFree ⟨nofun, nofun⟩, Bool.not_true, Bool.false_eq_true,
      if_false]
    split <;> rfl
  | waiting =>
    cases woken : s.sim.hasGridDone
    · obtain ⟨committed, wakes⟩ := inv.waiting rfl
      obtain ⟨pending, notQueued⟩ := inv.inFlight nofun
      have stored : s.sim.commitMap.lookup job.gridId = some job := by
        rcases inv.conserved.dispatched_held pending notQueued with ⟨-, absent⟩ | ⟨-, stored⟩
        exacts [absurd committed absent, stored]
      rcases inv.conserved.ended _ _ stored with running | signalled
      · exact ⟨_, .gridEnd s job running⟩
      · exact absurd (wakes signalled) (by simp [woken])
    · exact moves (by simp [Sim.pollStep, woken])
  | drain => exact moves rfl

theorem CallInv.reaches (inv : CallInv i job s pc) {t : Sys}
    (run : Relation.ReflTransGen (PollPhase k i) s t) : ∃ pc', CallInv i job t pc' := by
  induction run with
  | refl => exact ⟨pc, inv⟩
  | tail _ step ih =>
    obtain ⟨pc', inv'⟩ := ih
    obtain ⟨pc'', inv'', -⟩ := inv'.step step
    exact ⟨pc'', inv''⟩

/-- No run of the phase is infinite. -/
theorem CallInv.acc (inv : CallInv i job s pc) : Acc (fun t u => PollPhase k i u t) s := by
  suffices ∀ m, Acc CallOrder m → ∀ s pc, CallInv i job s pc → callMeasure job s.sim pc = m →
      Acc (fun t u => PollPhase k i u t) s from
    this _ (callOrder_wf.apply _) s pc inv rfl
  intro m acc
  induction acc with
  | intro m _ ih =>
    intro s pc inv measured
    refine ⟨s, fun t step => ?_⟩
    obtain ⟨pc', inv', lt⟩ := inv.step step
    exact ih _ (measured ▸ lt) t pc' inv' rfl

end Call

section Returns

variable (k : SimConsts)

/-- A `poll_status` call for a pending job that has left the queue, made along a fitting
run while no other call is in flight, returns: no run of its steps and of the engine's
is infinite, and until the call has returned, with its job reported, one of them can
be taken. -/
theorem poll_returns {s : Sys} {i : Nat} {job : Job} (reach : FitReach k s)
    (at_i : s.pollers.get? i = some ⟨job, .checkDone⟩)
    (alone : ∀ l ≠ i, ∀ p, s.pollers.get? l = some p → p.pc = .finished)
    (pending : job ∈ s.pending) (dispatched : job ∉ s.sim.bufferQueue) :
    Acc (fun t u => PollPhase k i u t) s ∧
    ∀ t, Relation.ReflTransGen (PollPhase k i) s t →
      (t.pollers.get? i = some ⟨job, .finished⟩ ∧ job ∉ t.pending) ∨ ∃ t', PollPhase k i t t' := by
  have inv : CallInv i job s .checkDone :=
    ⟨reach.conserved, alone, at_i, nofun, fun _ => ⟨pending, dispatched⟩, nofun⟩
  refine ⟨inv.acc, fun t run => ?_⟩
  obtain ⟨pc, inv'⟩ := inv.reaches run
  by_cases returned : pc = .finished
  · subst returned
    exact .inl ⟨inv'.at_i, inv'.returned rfl⟩
  · exact .inr (inv'.progress returned)

theorem poll_returns_dispatched :
    ∃ s : Sys, FitReach ⟨0, 1, 0⟩ s ∧ s.pollers.get? 0 = some ⟨jobA, .checkDone⟩ ∧
      (∀ l ≠ 0, ∀ p, s.pollers.get? l = some p → p.pc = .finished) ∧
      jobA ∈ s.pending ∧ jobA ∉ s.sim.bufferQueue ∧
      Acc (fun t u => PollPhase ⟨0, 1, 0⟩ 0 u t) s ∧
      ∀ t, Relation.ReflTransGen (PollPhase ⟨0, 1, 0⟩ 0) s t →
        (t.pollers.get? 0 = some ⟨jobA, .finished⟩ ∧ jobA ∉ t.pending) ∨
          ∃ t', PollPhase ⟨0, 1, 0⟩ 0 t t' := by
  let s : Sys :=
    { Sys.init 0 with sim := (Sys.init 0).sim.schedule ⟨0, 1, 0⟩ jobA 0 0, pending := [jobA] }
  have first : FitStep ⟨0, 1, 0⟩ (Sys.init 0) { s with scheduled := [jobA] } :=
    .schedule (Sys.init 0) jobA 0 0 (by decide) (by simp [Sys.init]) fun _ _ => rfl
  have called : FitStep ⟨0, 1, 0⟩ { s with scheduled := [jobA] }
      { s with scheduled := [jobA], pollers := [⟨jobA, .checkDone⟩] } :=
    .other _ _ (.pollCall _ jobA) rfl
  have reach : FitReach ⟨0, 1, 0⟩ { s with scheduled := [jobA], pollers := [⟨jobA, .checkDone⟩] } :=
    ⟨0, .tail (.single first) called⟩
  have alone : ∀ l ≠ 0, ∀ p, ([⟨jobA, .checkDone⟩] : List Poller).get? l = some p →
      p.pc = .finished := by
    intro l other p at_l
    cases l with
    | zero => exact absurd rfl other
    | succ l => simp at at_l
  exact ⟨_, reach, rfl, alone, by decide, by decide,
    poll_returns _ reach rfl alone (by decide) (by decide)⟩

end Returns

/-! ## A call for a queued job -/

/-- `jobA` is dispatched and `jobB` queued behind it; the engine ends `jobA`'s chain,
and then `poll_status` is called for `jobB`. -/
def pollQueued : List Action :=
  [.schedule jobA 0 0, .schedule jobB 0 0, .gridEnd jobA, .pollCall jobB]

/-- Every dispatched chain has ended, yet the call for `jobB` never returns: whatever
the call and the engine do, it stays in its first two states and can always go round
again. -/
theorem pollQueued_spins :
    ∃ s, (∀ k, (Sys.init 0).run k pollQueued = some s ∧ Reachable k s) ∧
      s.sim.aipu.running = [] ∧
      ∀ k t, Relation.ReflTransGen (PollPhase k 0) s t →
        (∃ pc, t.pollers = [⟨jobB, pc⟩] ∧ pc ≠ .finished) ∧ ∃ t', PollPhase k 0 t t' := by
  obtain ⟨s, done, pollers, notDone, notCommitted, idle⟩ : ∃ s,
      (Sys.init 0).run ⟨0, 0, 0⟩ pollQueued = some s ∧ s.pollers = [⟨jobB, .checkDone⟩] ∧
      jobB ∉ s.sim.doneSet ∧ jobB.gridId ∉ s.sim.commitMap ∧ s.sim.aipu.running = [] :=
    ⟨_, rfl, by decide⟩
  refine ⟨s, Sys.run_init_any (by decide) 0 done, idle, fun k => ?_⟩
  have spins : ∀ t, Relation.ReflTransGen (PollPhase k 0) s t → t.sim = s.sim ∧
      (t.pollers = [⟨jobB, .checkDone⟩] ∨ t.pollers = [⟨jobB, .checkCommit⟩]) := by
    intro t run
    induction run with
    | refl => exact ⟨rfl, .inl pollers⟩
    | tail _ step ih =>
      obtain ⟨same, at0⟩ := ih
      cases step with
      | gridEnd job running => simp [same, idle] at running
      | poll p regVal pick sim' pc at_i moves =>
        rcases at0 with at0 | at0 <;> simp only [at0, List.get?_cons_zero, Option.some.injEq] at at_i <;>
          subst at_i
        · simp only [Sim.pollStep, same, notDone, if_false, Option.some.injEq, Prod.mk.injEq] at moves
          obtain ⟨rfl, rfl⟩ := moves
          exact ⟨rfl, .inr (by simp [at0])⟩
        · simp only [Sim.pollStep, Sys.pollMtexFree, at0, same, notCommitted, List.any_cons,
            List.any_nil, Poller.holdsPollMtex] at moves
          simp only [reduceCtorEq, decide_False, Bool.or_false, Bool.not_false, Bool.not_true,
            Bool.false_eq_true, if_false, Option.some.injEq, Prod.mk.injEq] at moves
          obtain ⟨rfl, rfl⟩ := moves
          exact ⟨rfl, .inl (by simp [at0])⟩
  intro t reached
  obtain ⟨same, at0⟩ := spins t reached
  rcases at0 with at0 | at0
  · refine ⟨⟨_, at0, nofun⟩, _, .poll t ⟨jobB, .checkDone⟩ 0 0 t.sim .checkCommit
      (by simp [at0]) ?_⟩
    simp [Sim.pollStep, same, notDone]
  · refine ⟨⟨_, at0, nofun⟩, _, .poll t ⟨jobB, .checkCommit⟩ 0 0 t.sim .checkDone
      (by simp [at0]) ?_⟩
    simp [Sim.pollStep, Sys.pollMtexFree, at0, Poller.holdsPollMtex, same, notCommitted]

end AipuUmd
