import AipuUmd.Job.Lifecycle
import AipuUmd.Job.TaskLoop
import AipuUmd.Job.Carving
import Mathlib.Data.List.GetD

/-!
# The subgraph records `init_per_task_data` starts from

Step 4 of `alloc_load_job_buffers` pushes one record per subgraph to `m_sg_job`,
holding the subgraph's private buffers and no task yet. `JobV3_1.Laid` says what the
task loop may assume of them, and when the private buffers of two subgraphs with no
PRE_ALL subgraph between them share no memory (`JobV3_1.PrivateApart`).

* The centralized path hands out views of `tot_priv` at a running `uint32_t` offset that
  a PRE_ALL subgraph resets to 0; they are apart while `private_size` does not wrap
  (`viewSgPrivate_apart`, from the carving's `sgPrivateViews32_apart`).
* The scatter path allocates every private section on its own, so any two subgraphs
  have apart private buffers (`ScatterInv.run`, `ScatterInv.apart`).
* `allocSubgraphs_laid`: step 4 succeeds on one of the two paths, and the steps
  around the subgraph loops leave the records alone (`JobV3_1.SgFrame`).
-/

namespace AipuUmd

/-! ## Pushing a record -/

section Push

variable {j k : JobV3_1} {x : SubGraphTask}

theorem JobV3_1.sgTask_push (push : k.sgJob = j.sgJob ++ [x]) {i : Nat} (lt : i < j.sgJob.length) :
    k.sgTask i = j.sgTask i := by
  unfold JobV3_1.sgTask
  rw [push]
  exact List.getD_append _ _ _ _ lt

theorem JobV3_1.sgTask_push_self (push : k.sgJob = j.sgJob ++ [x]) :
    k.sgTask j.sgJob.length = x := by
  unfold JobV3_1.sgTask
  rw [push, List.getD_append_right _ _ _ _ le_rfl, Nat.sub_self]
  rfl

theorem JobV3_1.push_noTasks (push : k.sgJob = j.sgJob ++ [x])
    (old : ∀ i, (j.sgTask i).tasks = []) (new : x.tasks = []) (i : Nat) :
    (k.sgTask i).tasks = [] := by
  rcases Nat.lt_trichotomy i j.sgJob.length with lt | rfl | gt
  · rw [JobV3_1.sgTask_push push lt, old]
  · rw [JobV3_1.sgTask_push_self push, new]
  · unfold JobV3_1.sgTask
    rw [List.getD_eq_default _ _ (by rw [push, List.length_append, List.length_singleton]; omega)]
    rfl

theorem JobV3_1.noTasks_of_empty (empty : j.sgJob = []) (i : Nat) : (j.sgTask i).tasks = [] := by
  unfold JobV3_1.sgTask
  rw [empty]
  rfl

/-- The private buffers of the first `n` subgraphs, subgraph by subgraph. -/
def JobV3_1.privatePool (j : JobV3_1) (n : Nat) : List BufferDesc :=
  (List.range n).flatMap fun i => (j.sgTask i).reusePrivBuffers

theorem JobV3_1.privatePool_push (push : k.sgJob = j.sgJob ++ [x]) :
    k.privatePool (j.sgJob.length + 1) = j.privatePool j.sgJob.length ++ x.reusePrivBuffers := by
  unfold JobV3_1.privatePool
  rw [List.range_succ, List.flatMap_append, List.flatMap_singleton, JobV3_1.sgTask_push_self push,
    List.flatMap, List.flatMap,
    List.map_congr_left fun i hi => by rw [JobV3_1.sgTask_push push (List.mem_range.mp hi)]]

end Push

/-- The private buffers of any two of the first `n` subgraphs with no PRE_ALL subgraph
between them share no memory. -/
def JobV3_1.PrivateApart (j : JobV3_1) (n : Nat) : Prop :=
  ∀ i k, i < k → k < n → j.graph.NoPreallBetween i k →
    ∀ a ∈ (j.sgTask i).reusePrivBuffers, ∀ b ∈ (j.sgTask k).reusePrivBuffers, a.Disjoint b

/-! ## The centralized path -/

/-- The records the centralized subgraph loop appends to an empty `m_sg_job` keep the
private views of subgraphs with no PRE_ALL subgraph between them apart, while
`private_size` does not wrap. -/
theorem JobV3_1.viewSgPrivate_apart {j v : JobV3_1} (empty : j.sgJob = [])
    (views : j.viewSgPrivate j.topPrivBuf 0 (List.range j.sgCnt) = .ok v)
    (fits : PrivateSizesFit 0 ((List.range j.sgCnt).map j.subgraph)) : v.PrivateApart j.sgCnt := by
  obtain ⟨added, rfl, -, -, privs, -⟩ := JobV3_1.viewSgPrivate_ok views
  have get : ∀ i, (({ j with sgJob := j.sgJob ++ added } : JobV3_1).sgTask i).reusePrivBuffers =
      (sgPrivateViews32 (BufferDesc.baseId j.topPrivBuf) 0
        ((List.range j.sgCnt).map j.subgraph)).getD i [] := fun i => by
    rw [← privs]
    rw [empty, List.nil_append]
    exact (List.getD_map added default SubGraphTask.reusePrivBuffers).symm
  intro i k ik hk between a ha b hb
  rw [get] at ha hb
  exact sgPrivateViews32_apart _ (Nat.two_pow_pos 32) _ (sgPrivateViews32_fit _ _ fits) i k ik
    (fun p lo hi => by rw [j.getD_subgraphs (by omega)]; exact between p lo hi) a ha b hb

/-! ## The scatter path -/

/-- What the subgraph loop of the scatter path keeps once the first `n` subgraphs have
their private buffers: all of them are fresh allocations. -/
structure JobV3_1.ScatterInv (j : JobV3_1) (n : Nat) : Prop where
  length : j.sgJob.length = n
  noTasks : ∀ i, (j.sgTask i).tasks = []
  pool : FreshIn (j.privatePool n) 0 j.mem.nextId

section Scatter

variable {j : JobV3_1} {n : Nat}

/-- On the scatter path any two subgraphs have apart private buffers. -/
theorem JobV3_1.ScatterInv.apart (inv : j.ScatterInv n) : j.PrivateApart n :=
  fun _ _ lt hk _ => inv.pool.flatMap_apart (List.mem_range.mpr (by omega))
    (List.mem_range.mpr hk) (Nat.ne_of_lt lt)

/-- One subgraph of the scatter loop, whether its allocations succeed or not. -/
theorem JobV3_1.ScatterInv.step (inv : j.ScatterInv n) :
    let r := allocSections j.mem (j.subgraph n).privateBuffers
    ({ j with mem := r.1, sgJob := j.sgJob ++ [⟨n, r.2.1, []⟩] } : JobV3_1).ScatterInv
      (n + 1) := by
  intro r
  have push : ({ j with mem := r.1, sgJob := j.sgJob ++ [⟨n, r.2.1, []⟩] } : JobV3_1).sgJob =
    j.sgJob ++ [⟨n, r.2.1, []⟩] := rfl
  obtain ⟨grows, fresh⟩ := allocSections_fresh j.mem (j.subgraph n).privateBuffers
  refine ⟨by rw [push, List.length_append, inv.length, List.length_singleton],
    JobV3_1.push_noTasks push inv.noTasks rfl, ?_⟩
  have pool := JobV3_1.privatePool_push push
  rw [inv.length] at pool
  rw [pool]
  exact inv.pool.append fresh (Nat.zero_le _) grows

/-- The subgraph loop of the scatter path over subgraphs `[n, n + m)`, when it succeeds. -/
theorem JobV3_1.ScatterInv.run (m : Nat) {t : SubGraphTask} (inv : j.ScatterInv n)
    (ok : (j.allocSgPrivate t (List.range' n m)).2.2 = .success) :
    (j.allocSgPrivate t (List.range' n m)).1.ScatterInv (n + m) := by
  induction m generalizing j n t with
  | zero => exact inv
  | succ m ih =>
    rw [List.range'_succ] at ok ⊢
    simp only [JobV3_1.allocSgPrivate] at ok ⊢
    rw [show n + (m + 1) = n + 1 + m by omega]
    by_cases st : (allocSections j.mem (j.subgraph n).privateBuffers).2.2 = .success
    · rw [if_pos st] at ok ⊢
      exact ih inv.step ok
    · rw [if_neg st] at ok
      exact absurd ok st

end Scatter

/-! ## The steps around the subgraph loops -/

/-- A step before `init_per_task_data` that leaves the graph, the subgraph count, the
subgraph records and `m_sgt_allocated` alone. -/
structure JobV3_1.SgFrame (a b : JobV3_1) : Prop where
  graph : b.graph = a.graph
  sgCnt : b.sgCnt = a.sgCnt
  sgJob : b.sgJob = a.sgJob
  sgtAllocated : b.sgtAllocated = a.sgtAllocated

theorem JobV3_1.SgFrame.refl (j : JobV3_1) : j.SgFrame j := ⟨rfl, rfl, rfl, rfl⟩

theorem JobV3_1.SgFrame.trans {a b c : JobV3_1} (first : a.SgFrame b) (second : b.SgFrame c) :
    a.SgFrame c :=
  ⟨second.1.trans first.1, second.2.trans first.2, second.3.trans first.3,
    second.4.trans first.4⟩

theorem JobV3_1.SgFrame.allocModelParam (j : JobV3_1) : j.SgFrame j.allocModelParam.1 := by
  unfold JobV3_1.allocModelParam
  split
  · split
    dsimp only
    split_ifs <;> exact ⟨rfl, rfl, rfl, rfl⟩
  · exact ⟨rfl, rfl, rfl, rfl⟩

theorem JobV3_1.SgFrame.onSuccess {a : JobV3_1} {r : JobV3_1 × Status}
    {next : JobV3_1 → JobV3_1 × Status} (first : a.SgFrame r.1)
    (rest : ∀ b : JobV3_1, b.SgFrame (next b).1) :
    a.SgFrame (onSuccess r next).1 := by
  unfold AipuUmd.onSuccess
  split
  · exact first.trans (rest _)
  · exact first

theorem JobV3_1.SgFrame.allocJobWide (j : JobV3_1) : j.SgFrame j.allocJobWide.1 := by
  unfold JobV3_1.allocJobWide
  refine .onSuccess ?_ fun b => .onSuccess ?_ fun c => ?_
  · split
    · exact .refl j
    · split
      exact ⟨rfl, rfl, rfl, rfl⟩
  · split
    · exact .refl b
    · split
      exact ⟨rfl, rfl, rfl, rfl⟩
  · split
    exact ⟨rfl, rfl, rfl, rfl⟩

theorem JobV3_1.SgFrame.optAllocFail (j : JobV3_1) : j.SgFrame j.optAllocFail := by
  unfold JobV3_1.optAllocFail
  dsimp only
  split_ifs <;> exact ⟨rfl, rfl, rfl, rfl⟩

theorem JobV3_1.SgFrame.allocTopPriv (j : JobV3_1) : j.SgFrame j.allocTopPriv.1 := by
  unfold JobV3_1.allocTopPriv
  dsimp only
  split
  · exact .refl j
  · split <;> exact ⟨rfl, rfl, rfl, rfl⟩

theorem JobV3_1.SgFrame.allocTopReuse (j : JobV3_1) : j.SgFrame j.allocTopReuse.1 := by
  unfold JobV3_1.allocTopReuse
  split <;> exact ⟨rfl, rfl, rfl, rfl⟩

theorem JobV3_1.SgFrame.allocPrintf (j : JobV3_1) : j.SgFrame j.allocPrintf.1 := by
  unfold JobV3_1.allocPrintf
  split
  · split <;> exact ⟨rfl, rfl, rfl, rfl⟩
  · exact .refl j

theorem JobV3_1.SgFrame.optimized (j : JobV3_1) :
    j.SgFrame { j with optimizedReuseAlloc := true } := ⟨rfl, rfl, rfl, rfl⟩

theorem JobV3_1.SgFrame.allocBssCentral (j : JobV3_1) (base : Nat) (ids : List Nat) :
    j.SgFrame (j.allocBssCentral base ids).1 := by
  induction ids generalizing j with
  | nil => exact .refl j
  | cons b rest ih =>
    simp only [JobV3_1.allocBssCentral]
    split
    · split
      · refine .trans ?_ (ih _)
        exact ⟨rfl, rfl, rfl, rfl⟩
      · exact ⟨rfl, rfl, rfl, rfl⟩
    · refine .trans ?_ (ih _)
      exact ⟨rfl, rfl, rfl, rfl⟩

theorem JobV3_1.SgFrame.allocBssScatter (j : JobV3_1) (lastId : Nat) (ids : List Nat) :
    j.SgFrame (j.allocBssScatter lastId ids).1 := by
  induction ids generalizing j with
  | nil => exact .refl j
  | cons b rest ih =>
    simp only [JobV3_1.allocBssScatter]
    split
    · split
      · refine .trans ?_ (ih _)
        exact ⟨rfl, rfl, rfl, rfl⟩
      · exact ⟨rfl, rfl, rfl, rfl⟩
    · exact ih j

/-- The scatter subgraph loop changes the subgraph records only. -/
theorem JobV3_1.allocSgPrivate_counts (j : JobV3_1) (t : SubGraphTask) (ids : List Nat) :
    (j.allocSgPrivate t ids).1.graph = j.graph ∧ (j.allocSgPrivate t ids).1.sgCnt = j.sgCnt ∧
      (j.allocSgPrivate t ids).1.sgtAllocated = j.sgtAllocated := by
  induction ids generalizing j t with
  | nil => exact ⟨rfl, rfl, rfl⟩
  | cons i rest ih =>
    simp only [JobV3_1.allocSgPrivate]
    split
    · exact ih _ _
    · exact ⟨rfl, rfl, rfl⟩

/-- The reuse loop of the centralized path returns 0, -3 or -4. -/
theorem JobV3_1.reuseViews_result (j : JobV3_1) (base : Nat) (mem : MemMgr) (k offset : Nat)
    (secs : List SectionDesc) :
    (j.reuseViews base mem k offset secs).2.2 = 0 ∨
      (j.reuseViews base mem k offset secs).2.2 < -1 := by
  induction secs generalizing mem k offset with
  | nil => exact .inl rfl
  | cons sec rest ih =>
    simp only [JobV3_1.reuseViews]
    split
    · exact ih _ _ _
    · split
      · exact ih _ _ _
      · split
        · exact .inr (by split <;> simp)
        · exact ih _ _ _

theorem JobV3_1.allocBssCentral_result (j : JobV3_1) (base : Nat) (ids : List Nat) :
    (j.allocBssCentral base ids).2 = 0 ∨ (j.allocBssCentral base ids).2 < -1 := by
  induction ids generalizing j with
  | nil => exact .inl rfl
  | cons b rest ih =>
    simp only [JobV3_1.allocBssCentral]
    split
    · split
      · exact ih _
      · exact (j.reuseViews_result _ _ _ _ _).resolve_left ‹_› |> .inr
    · exact ih _

/-- The centralized path after its subgraph loop never asks for the scatter path. -/
theorem JobV3_1.allocCentralRest_result (j : JobV3_1) :
    j.allocCentralRest.2 = 0 ∨ j.allocCentralRest.2 < -1 := by
  unfold JobV3_1.allocCentralRest
  dsimp only
  split
  · exact JobV3_1.allocBssCentral_result _ _ _
  · split
    · exact .inr (show (-6 : Int) < -1 by decide)
    · exact .inl rfl

/-! ## Step 4 -/

/-- What `init_per_task_data` starts from, for graph `g` with `n` subgraphs: a record
without tasks for each subgraph, private buffers apart wherever no PRE_ALL subgraph lies
between once `private_size` does not wrap, and no subgraph allocated yet. -/
structure JobV3_1.Laid (j : JobV3_1) (g : Graph) (n : Nat) : Prop where
  graph : j.graph = g
  sgCnt : j.sgCnt = n
  length : j.sgJob.length = n
  noTasks : ∀ i, (j.sgTask i).tasks = []
  apart : PrivateSizesFit 0 ((List.range n).map g.subgraph) → j.PrivateApart n
  noAllocated : j.sgtAllocated = []

theorem JobV3_1.Laid.frame {a b : JobV3_1} {g : Graph} {n : Nat} (laid : a.Laid g n)
    (f : a.SgFrame b) : b.Laid g n := by
  have task : ∀ i, b.sgTask i = a.sgTask i := fun i => by unfold JobV3_1.sgTask; rw [f.sgJob]
  refine ⟨f.graph.trans laid.graph, f.sgCnt.trans laid.sgCnt, f.sgJob ▸ laid.length,
    fun i => by rw [task, laid.noTasks], fun fits i k lt hk between => ?_,
    f.sgtAllocated.trans laid.noAllocated⟩
  rw [task, task]
  exact laid.apart fits i k lt hk (f.graph ▸ between)

/-- The scatter path lays out the subgraphs when it succeeds. -/
theorem JobV3_1.allocSubgraphBuffers_laid (j : JobV3_1) (empty : j.sgJob = [])
    (noAllocated : j.sgtAllocated = []) (ok : j.allocSubgraphBuffers.2 = .success) :
    j.allocSubgraphBuffers.1.Laid j.graph j.sgCnt := by
  have start : j.ScatterInv 0 := ⟨by rw [empty]; rfl, JobV3_1.noTasks_of_empty empty, .nil 0 _⟩
  obtain ⟨graph, count, alloc⟩ :=
    j.allocSgPrivate_counts (SubGraphTask.reset 0) (List.range j.sgCnt)
  unfold JobV3_1.allocSubgraphBuffers at ok ⊢
  dsimp only at ok ⊢
  by_cases priv : (j.allocSgPrivate (SubGraphTask.reset 0) (List.range j.sgCnt)).2.2 = .success
  · have inv := start.run j.sgCnt (by rwa [← List.range_eq_range'])
    rw [← List.range_eq_range', Nat.zero_add] at inv
    have laid :
        (j.allocSgPrivate (SubGraphTask.reset 0) (List.range j.sgCnt)).1.Laid j.graph j.sgCnt :=
      ⟨graph, count, inv.length, inv.noTasks, fun _ => inv.apart, alloc.trans noAllocated⟩
    rw [if_neg (not_not.mpr priv)] at ok ⊢
    split at ok
    next failed => exact absurd ok failed
    next bss =>
      rw [if_neg bss]
      exact (laid.frame (.allocBssScatter _ _ _)).frame (.allocPrintf _)
  · rw [if_pos priv] at ok
    exact absurd ok priv

/-- The rest of the centralized path keeps the subgraph records, on every branch. -/
theorem JobV3_1.SgFrame.allocCentralRest (j : JobV3_1) : j.SgFrame j.allocCentralRest.1 := by
  unfold JobV3_1.allocCentralRest
  dsimp only
  split_ifs
  · exact .allocBssCentral _ _ _
  · exact (JobV3_1.SgFrame.allocBssCentral _ _ _).trans (.allocPrintf _)
  · exact ((JobV3_1.SgFrame.allocBssCentral _ _ _).trans (.allocPrintf _)).trans (.optimized _)

/-- The centralized path lays out the subgraphs whenever its subgraph loop does not
fault, whether or not it succeeds. -/
theorem JobV3_1.allocViews_laid {j : JobV3_1} {r : JobV3_1 × Int} (empty : j.sgJob = [])
    (noAllocated : j.sgtAllocated = []) (ok : j.allocViews = .ok r) : r.1.Laid j.graph j.sgCnt := by
  obtain ⟨v, views, rfl⟩ := JobV3_1.allocViews_ok.mp ok
  have apart := fun fits => JobV3_1.viewSgPrivate_apart empty views fits
  obtain ⟨added, rfl, ids, tasks, -, -⟩ := JobV3_1.viewSgPrivate_ok views
  have length : added.length = j.sgCnt := by
    rw [← List.length_range j.sgCnt, ← ids, List.length_map]
  have laid : ({ j with sgJob := j.sgJob ++ added } : JobV3_1).Laid j.graph j.sgCnt :=
    ⟨rfl, rfl, by rw [empty, List.nil_append, length],
      fun i => by
        unfold JobV3_1.sgTask
        rw [empty, List.nil_append]
        rcases Nat.lt_or_ge i added.length with lt | ge
        · exact tasks _ (List.getD_eq_getElem _ _ lt ▸ List.getElem_mem lt)
        · rw [List.getD_eq_default _ _ ge]
          rfl,
      apart, noAllocated⟩
  exact laid.frame (.allocCentralRest _)

/-- The centralized path either falls back, having changed no subgraph record, or goes
on past its top buffers. -/
theorem JobV3_1.allocSubgraphBuffersOptimized_cases (j : JobV3_1) :
    (∃ k, j.allocSubgraphBuffersOptimized = .ok (k, -1) ∧ j.SgFrame k) ∨
      (j.allocSubgraphBuffersOptimized = j.allocTopPriv.1.allocTopReuse.1.allocViews ∧
        j.SgFrame j.allocTopPriv.1.allocTopReuse.1) := by
  have top := (JobV3_1.SgFrame.allocTopPriv j).trans (.allocTopReuse _)
  unfold JobV3_1.allocSubgraphBuffersOptimized
  split
  · exact .inl ⟨_, rfl, .optAllocFail j⟩
  · split
    · exact .inl ⟨_, rfl, (JobV3_1.SgFrame.allocTopPriv j).trans (.optAllocFail _)⟩
    · split
      · exact .inl ⟨_, rfl, top.trans (.optAllocFail _)⟩
      · exact .inr ⟨rfl, top⟩

/-- Step 4 lays out the subgraphs when it succeeds, on either path. -/
theorem JobV3_1.allocSubgraphs_laid {j k : JobV3_1} (empty : j.sgJob = [])
    (noAllocated : j.sgtAllocated = []) (ok : j.allocSubgraphs = .ok (k, .success)) :
    k.Laid j.graph j.sgCnt := by
  obtain ⟨p, opt, rest⟩ := JobV3_1.allocSubgraphs_ok.mp ok
  rcases j.allocSubgraphBuffersOptimized_cases with ⟨k', fallback, frame⟩ | ⟨central, frame⟩
  · rw [fallback] at opt
    cases opt
    rw [if_pos rfl] at rest
    have laid := JobV3_1.allocSubgraphBuffers_laid _ (frame.sgJob.trans empty)
      (frame.sgtAllocated.trans noAllocated) (by rw [rest])
    rw [rest, frame.graph, frame.sgCnt] at laid
    exact laid
  · rw [central] at opt
    have laid := JobV3_1.allocViews_laid (frame.sgJob.trans empty)
      (frame.sgtAllocated.trans noAllocated) opt
    rw [frame.graph, frame.sgCnt] at laid
    obtain ⟨v, views, eq⟩ := JobV3_1.allocViews_ok.mp opt
    rcases v.allocCentralRest_result with zero | failed
    · rw [if_neg (by rw [← eq]; omega), if_neg (by rw [← eq]; omega)] at rest
      cases rest
      exact laid
    · rw [if_neg (by rw [← eq]; omega), if_pos (by rw [← eq]; exact failed)] at rest
      cases rest

/-- The task loop starts from the invariant. -/
theorem JobV3_1.Laid.taskInv {j : JobV3_1} {g : Graph} {n : Nat} (laid : j.Laid g n) :
    j.TaskInv 0 0 false := by
  have pool : j.taskPool = [] := by
    unfold JobV3_1.taskPool
    rw [laid.noAllocated]
    rfl
  refine ⟨fun i _ => laid.noTasks i, pool ▸ .nil 0 _, ?_, ?_, ?_,
    fun i hi => absurd hi (Nat.not_lt_zero _), fun _ _ _ hk => absurd hk (Nat.not_lt_zero _),
    fun no => absurd no Bool.false_ne_true⟩ <;> simp [laid.noAllocated]

end AipuUmd
