import AipuUmd.Job.SubgraphLoop
import Mathlib.Logic.Relation

/-!
# Which subgraphs share memory

`init_per_task_data` lets every subgraph from a PRE_ALL subgraph on take over the tasks
(stacks and private data) of the subgraphs that allocated, in order, and the
centralized path starts the private views of a PRE_ALL subgraph at offset 0 again.
A PRE_ALL subgraph waits for every earlier group, but the subgraphs after it need not
wait for anything: in scenario E3 subgraph 3 runs the stacks of subgraph 1 although
neither is ordered before the other (`preall_shares_unordered_stacks`).

What the code does keep apart are the tasks of one subgraph, and any two subgraphs
with no PRE_ALL subgraph between them: their stacks and private data share no memory
on either path, and neither do their private buffers while the centralized path's
`uint32_t` `private_size` does not wrap (`init_keeps_epochs_apart`). Past `2^32` the
views wrap onto each other (`optimized_views_wrap_onto_first`).
-/

namespace AipuUmd

/-! ## Ordering -/

/-- Subgraph `k` waits for subgraph `i` in the chain: `config_tcb_deps` names `i`'s
group among `k`'s `group_deps`, or marks `k` PRE_ALL, which waits for every earlier
group. -/
def Graph.WaitsFor (g : Graph) (k i : Nat) : Prop :=
  (g.subgraph k).precursorCnt = subgDependPreall ∧ i < k ∨
    1 ≤ (g.subgraph k).precursorCnt ∧ (g.subgraph k).precursorCnt ≤ 4 ∧
      i ∈ (g.subgraph k).precursors.take (g.subgraph k).precursorCnt.toNat

/-- Subgraph `i` is ordered before subgraph `k`: a chain of waits leads from `k` back
to `i`. -/
def Graph.OrderedBefore (g : Graph) (i k : Nat) : Prop :=
  Relation.TransGen (fun a b => g.WaitsFor b a) i k

/-- A subgraph without dependency comes after nothing. -/
theorem Graph.not_orderedBefore_of_none (g : Graph) {k : Nat}
    (none : (g.subgraph k).precursorCnt = 0) (i : Nat) : ¬g.OrderedBefore i k := by
  intro ordered
  obtain ⟨c, -, waits⟩ := Relation.TransGen.tail'_iff.mp ordered
  unfold Graph.WaitsFor subgDependPreall at waits
  omega

/-! ## Scenario E3 -/

/-- Scenario E3: subgraphs 0 and 1 without dependency, subgraph 2 PRE_ALL, subgraph 3
without dependency; each with a private section and private data. -/
def e3Graph : Graph where
  subgraphs := [⟨0, [], [⟨4096⟩], 64, 0⟩, ⟨0, [], [⟨4096⟩], 64, 0⟩,
    ⟨-1, [], [⟨4096⟩], 64, 0⟩, ⟨0, [], [⟨4096⟩], 64, 0⟩]
  fakeSubgraph := false
  bss := [⟨[⟨4096⟩], 1024, default, []⟩]
  rodataSize := 256
  descSize := 0
  globalParamSize := 0
  dynamicShape := false
  gmReuse := []

theorem preall_shares_unordered_stacks :
    ¬e3Graph.OrderedBefore 1 3 ∧
      ∃ j, (JobV3_1.create e3Graph true [] false [] .fresh (.once 0)).init = .ok (j, .success) ∧
        ∃ t ∈ (j.sgTask 1).tasks, t ∈ (j.sgTask 3).tasks ∧ ¬t.Apart t :=
  ⟨e3Graph.not_orderedBefore_of_none (k := 3) rfl 1, _, rfl, by decide⟩

/-! ## A successful `init` -/

theorem JobV3_1.unwind_status {j j' : JobV3_1} {st st' : Status}
    (ok : j.unwind st = .ok (j', st')) : st' = st := by
  unfold JobV3_1.unwind at ok
  split at ok
  · cases ok
    rfl
  · revert ok
    cases (List.range j.sgJob.length).foldlM JobV3_1.freeSgBuffers j with
    | error e => intro ok; cases ok
    | ok j₁ =>
      dsimp only [bind, Except.bind]
      cases j₁.freeJobBuffers with
      | error e => intro ok; cases ok
      | ok j₂ => intro ok; cases ok; rfl

theorem JobV3_1.loadAndChain_success {j j' : JobV3_1} (ok : j.loadAndChain = .ok (j', .success)) :
    j.allocLoadJobBuffers = .ok (j', .success) := by
  unfold JobV3_1.loadAndChain at ok
  revert ok
  cases j.allocLoadJobBuffers with
  | error e => intro ok; cases ok
  | ok r =>
    obtain ⟨j₁, st⟩ := r
    dsimp only [bind, Except.bind]
    by_cases stop : st ≠ .success ∨ j₁.sgCnt = 0
    · rw [if_pos stop]
      intro ok
      cases ok
      rfl
    · rw [if_neg stop]
      cases j₁.setupTcbChain (List.range j₁.graph.subgraphCnt) with
      | error e => intro ok; cases ok
      | ok st' =>
        intro ok
        cases ok
        rw [not_or, not_not] at stop
        rw [stop.1]

/-- A successful load ran steps 0 to 5 to success, read a first BSS buffer, and returns
the job with its I/O buffers. -/
theorem JobV3_1.allocLoadJobBuffers_success {j j' : JobV3_1}
    (ok : j.allocLoadJobBuffers = .ok (j', .success)) :
    ∃ k, j.allocBuffers = .ok (k, .success) ∧ k.bssBufferVec ≠ [] ∧ j' = k.createIoBuffers := by
  unfold JobV3_1.allocLoadJobBuffers at ok
  obtain ⟨⟨k, st⟩, alloc, ok⟩ := bind_eq_ok.mp ok
  dsimp only at ok
  by_cases fail : st ≠ .success
  · rw [if_pos fail] at ok
    exact absurd (JobV3_1.unwind_status ok).symm fail
  rw [if_neg fail] at ok
  obtain rfl : st = .success := not_not.mp fail
  refine ⟨k, alloc, ?_⟩
  revert ok
  cases k.bssBufferVec with
  | nil => intro ok; cases ok
  | cons bss0 rest =>
    dsimp only [List.head?]
    split_ifs
    · intro ok
      cases ok
      exact ⟨nofun, rfl⟩
    · intro ok
      cases ok
    · intro ok
      cases ok
    · intro ok
      exact ⟨nofun, congrArg Prod.fst (JobV3_1.segmmuStep_ok ok)⟩

theorem onSuccess_success {r : JobV3_1 × Status} {next : JobV3_1 → JobV3_1 × Status}
    (ok : (onSuccess r next).2 = .success) : r.2 = .success ∧ onSuccess r next = next r.1 := by
  unfold onSuccess at ok ⊢
  split at ok
  next h => exact ⟨h, by rw [if_pos h]⟩
  next h => exact absurd ok h

/-- A successful run of steps 0 to 5: each step succeeded in turn. -/
theorem JobV3_1.allocBuffers_success {j s : JobV3_1} (ok : j.allocBuffers = .ok (s, .success)) :
    j.allocModelParam.2 = .success ∧ j.allocModelParam.1.allocJobWide.2 = .success ∧
      ∃ u, j.allocModelParam.1.allocJobWide.1.allocSubgraphs = .ok (u, .success) ∧
        u.initPerTaskData = (s, .success) := by
  rcases JobV3_1.allocBuffers_ok.mp ok with ⟨failed, eq⟩ | ⟨wide, ⟨u, st⟩, sub, eq⟩
  · rw [eq] at failed
    exact absurd rfl failed
  obtain ⟨param, eq₁⟩ := onSuccess_success wide
  rw [eq₁] at wide sub
  obtain ⟨done, eq₂⟩ := onSuccess_success
    (show (onSuccess (u, st) JobV3_1.initPerTaskData).2 = .success by rw [eq])
  obtain rfl : st = .success := done
  rw [eq₂] at eq
  exact ⟨param, wide, u, sub, eq⟩

/-- A successful `init` is `loadAndChain` on the job with its parameters set and the
group ids the device granted. -/
theorem JobV3_1.init_loads {j j' : JobV3_1} (ok : j.init = .ok (j', .success)) :
    ∃ dev start,
      j.setJobParams.dev.getStartGroupId j.setJobParams.sgCnt j.setJobParams.startGroupId = (dev, some start) ∧
        { j.setJobParams with dev, startGroupId := start }.loadAndChain = .ok (j', .success) := by
  unfold JobV3_1.init at ok
  split at ok
  · cases ok
  · dsimp only at ok
    split at ok
    · cases ok
    · next dev start granted => exact ⟨dev, start, granted, ok⟩

theorem JobV3_1.init_success {j j' : JobV3_1} (ok : j.init = .ok (j', .success)) :
    ∃ k : JobV3_1, j.setJobParams.SgFrame k ∧ k.loadAndChain = .ok (j', .success) := by
  obtain ⟨dev, start, -, ok⟩ := JobV3_1.init_loads ok
  refine ⟨_, ?_, ok⟩
  exact ⟨rfl, rfl, rfl, rfl⟩

/-! ## What the code keeps apart -/

theorem init_keeps_epochs_apart (graph : Graph) (fmMemRegionDefault : Bool) (fmIdxes : List Nat)
    (dynShapeSet : Bool) (configShape : List Bool) (mem : MemMgr) (dev : Device) {j : JobV3_1}
    (ok : (JobV3_1.create graph fmMemRegionDefault fmIdxes dynShapeSet configShape mem dev).init =
      .ok (j, .success)) :
    (∀ i < graph.subgraphCnt, (j.sgTask i).tasks.Pairwise Task.Apart) ∧
      ∀ i k, i < k → k < graph.subgraphCnt → graph.NoPreallBetween i k →
        (∀ t ∈ (j.sgTask i).tasks, ∀ u ∈ (j.sgTask k).tasks, t.Apart u) ∧
          (PrivateSizesFit 0 ((List.range graph.subgraphCnt).map graph.subgraph) →
            ∀ a ∈ (j.sgTask i).reusePrivBuffers, ∀ b ∈ (j.sgTask k).reusePrivBuffers,
              a.Disjoint b) := by
  obtain ⟨c, frame, chain⟩ := JobV3_1.init_success ok
  obtain ⟨s, loaded, -, rfl⟩ :=
    JobV3_1.allocLoadJobBuffers_success (JobV3_1.loadAndChain_success chain)
  obtain ⟨-, -, u, sub, tasks⟩ := JobV3_1.allocBuffers_success loaded
  have before := frame.trans ((JobV3_1.SgFrame.allocModelParam c).trans (.allocJobWide _))
  have laid := JobV3_1.allocSubgraphs_laid before.sgJob before.sgtAllocated sub
  rw [before.graph, before.sgCnt] at laid
  change JobV3_1.Laid _ graph graph.subgraphCnt at laid
  unfold JobV3_1.initPerTaskData at tasks
  rw [List.range_eq_range'] at tasks
  have done : (u.initTasks 0 false (List.range' 0 u.sgCnt)).2 = .success := by rw [tasks]
  obtain ⟨_, _, inv⟩ :=
    laid.taskInv.run _ (by rw [laid.length, laid.sgCnt, Nat.zero_add]) done
  have tf := JobV3_1.TaskFrame.initTasks u 0 false (List.range' 0 u.sgCnt)
  rw [tasks] at inv tf
  rw [laid.sgCnt, Nat.zero_add] at inv
  have view : ∀ i, s.createIoBuffers.sgTask i = s.sgTask i := fun _ => rfl
  have sameGraph : s.graph = graph := tf.graph.trans laid.graph
  simp only [view]
  refine ⟨fun i lt => inv.within lt, fun i k lt hk between =>
    ⟨inv.apart i k lt hk (sameGraph ▸ between), fun fits => ?_⟩⟩
  rw [tf.privateBuffers, tf.privateBuffers]
  exact laid.apart fits i k lt hk (laid.graph ▸ between)

theorem init_keeps_epochs_apart_scenario_e3 :
    ∃ j, (JobV3_1.create e3Graph true [] false [] .fresh (.once 0)).init = .ok (j, .success) ∧
      (∀ i < e3Graph.subgraphCnt, (j.sgTask i).tasks.Pairwise Task.Apart) ∧
      ∀ i k, i < k → k < e3Graph.subgraphCnt → e3Graph.NoPreallBetween i k →
        (∀ t ∈ (j.sgTask i).tasks, ∀ u ∈ (j.sgTask k).tasks, t.Apart u) ∧
          (PrivateSizesFit 0 ((List.range e3Graph.subgraphCnt).map e3Graph.subgraph) →
            ∀ a ∈ (j.sgTask i).reusePrivBuffers, ∀ b ∈ (j.sgTask k).reusePrivBuffers,
              a.Disjoint b) :=
  ⟨_, rfl, init_keeps_epochs_apart e3Graph true [] false [] .fresh (.once 0) rfl⟩

end AipuUmd
