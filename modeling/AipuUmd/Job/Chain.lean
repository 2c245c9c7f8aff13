import AipuUmd.Job.Sharing

/-!
# The TCB chain of a job that `init` loaded

`init` fixes the graph, `m_sg_cnt = get_subgraph_cnt()`, `m_task_per_sg = 4` and the
start group id before it loads the buffers, and the loading keeps them
(`JobV3_1.allocBuffers_params`). `setupTcbChain` is the chain as `init` runs it, by its
faults and status; `setupTcbChainWrites` is the same chain by the TCBs it writes, and
the two agree (`setupTcbChainWrites_status`).

* `init_tcb_chain_layout`: when `init` succeeds on a graph with subgraphs, its chain
  writes each of the `1 + S * 5` slots once, with group ids and `tcbp` kept modulo the
  width of their fields; from a start id of `0xffff` the group ids wrap to 0.
* `init_accepts_self_dependent_group`: nothing orders a group after its precursors; a
  subgraph that names itself is built into a group that waits on itself.
* `init_reads_null_descriptors`: the chain dereferences a task's private data and
  `m_pprint`, and the loading `m_rodata`, whether or not they were allocated.
-/

namespace AipuUmd

/-! ## The loading keeps the job's parameters -/

/-- What `init` fixes before loading: the graph, `m_sg_cnt`, `m_task_per_sg` and
`m_start_group_id`. -/
def JobV3_1.params (j : JobV3_1) : Graph × Nat × Nat × Nat :=
  (j.graph, j.sgCnt, j.taskPerSg, j.startGroupId)

section Params

variable (j : JobV3_1)

theorem params_onSuccess {a : JobV3_1} {r : JobV3_1 × Status} {next : JobV3_1 → JobV3_1 × Status}
    (first : r.1.params = a.params) (rest : ∀ b : JobV3_1, (next b).1.params = b.params) :
    (onSuccess r next).1.params = a.params := by
  unfold onSuccess
  split
  · exact (rest _).trans first
  · exact first

theorem JobV3_1.allocModelParam_params : j.allocModelParam.1.params = j.params := by
  unfold JobV3_1.allocModelParam
  split
  · split
    dsimp only
    split_ifs <;> rfl
  · rfl

theorem JobV3_1.allocJobWide_params : j.allocJobWide.1.params = j.params := by
  unfold JobV3_1.allocJobWide
  refine params_onSuccess ?_ fun b => params_onSuccess ?_ fun c => ?_
  · split
    · rfl
    · split
      rfl
  · split
    · rfl
    · split
      rfl
  · split
    rfl

theorem JobV3_1.allocPrintf_params : j.allocPrintf.1.params = j.params := by
  unfold JobV3_1.allocPrintf
  split
  · split <;> rfl
  · rfl

theorem JobV3_1.allocSgPrivate_params (t : SubGraphTask) (ids : List Nat) :
    (j.allocSgPrivate t ids).1.params = j.params := by
  induction ids generalizing j t with
  | nil => rfl
  | cons i rest ih =>
    simp only [JobV3_1.allocSgPrivate]
    split
    · exact ih _ _
    · rfl

theorem JobV3_1.allocBssScatter_params (lastId : Nat) (ids : List Nat) :
    (j.allocBssScatter lastId ids).1.params = j.params := by
  induction ids generalizing j with
  | nil => rfl
  | cons b rest ih =>
    simp only [JobV3_1.allocBssScatter]
    split
    · split
      · exact ih _
      · rfl
    · exact ih j

theorem JobV3_1.allocSubgraphBuffers_params : j.allocSubgraphBuffers.1.params = j.params := by
  have priv := j.allocSgPrivate_params (SubGraphTask.reset 0) (List.range j.sgCnt)
  unfold JobV3_1.allocSubgraphBuffers
  dsimp only
  generalize j.allocSgPrivate (SubGraphTask.reset 0) (List.range j.sgCnt) = r at priv ⊢
  have bss := r.1.allocBssScatter_params r.2.1.id (List.range r.1.graph.bss.length)
  generalize r.1.allocBssScatter r.2.1.id (List.range r.1.graph.bss.length) = b at bss ⊢
  split_ifs
  · exact priv
  · exact bss.trans priv
  · exact (b.1.allocPrintf_params.trans bss).trans priv

theorem JobV3_1.optAllocFail_params : j.optAllocFail.params = j.params := by
  unfold JobV3_1.optAllocFail
  dsimp only
  split_ifs <;> rfl

theorem JobV3_1.allocTopPriv_params : j.allocTopPriv.1.params = j.params := by
  unfold JobV3_1.allocTopPriv
  dsimp only
  split
  · rfl
  · split <;> rfl

theorem JobV3_1.allocTopReuse_params : j.allocTopReuse.1.params = j.params := by
  unfold JobV3_1.allocTopReuse
  split <;> rfl

theorem JobV3_1.allocBssCentral_params (base : Nat) (ids : List Nat) :
    (j.allocBssCentral base ids).1.params = j.params := by
  induction ids generalizing j with
  | nil => rfl
  | cons b rest ih =>
    simp only [JobV3_1.allocBssCentral]
    split
    · split
      · exact ih _
      · rfl
    · exact ih _

theorem JobV3_1.allocCentralRest_params : j.allocCentralRest.1.params = j.params := by
  unfold JobV3_1.allocCentralRest
  dsimp only
  have bss := j.allocBssCentral_params (BufferDesc.baseId j.topReuseBuf) (List.range j.graph.bss.length)
  generalize j.allocBssCentral (BufferDesc.baseId j.topReuseBuf) (List.range j.graph.bss.length) = b
    at bss ⊢
  have printf := b.1.allocPrintf_params
  split_ifs
  · exact bss
  · exact printf.trans bss
  · exact printf.trans bss

theorem JobV3_1.allocSubgraphBuffersOptimized_params {p : JobV3_1 × Int}
    (ok : j.allocSubgraphBuffersOptimized = .ok p) : p.1.params = j.params := by
  have top := (j.allocTopPriv.1.allocTopReuse_params).trans j.allocTopPriv_params
  unfold JobV3_1.allocSubgraphBuffersOptimized at ok
  split_ifs at ok
  · cases ok
    exact j.optAllocFail_params
  · cases ok
    exact (JobV3_1.optAllocFail_params _).trans j.allocTopPriv_params
  · cases ok
    exact (JobV3_1.optAllocFail_params _).trans top
  · obtain ⟨v, views, rfl⟩ := JobV3_1.allocViews_ok.mp ok
    obtain ⟨added, rfl, -⟩ := JobV3_1.viewSgPrivate_ok views
    exact (JobV3_1.allocCentralRest_params _).trans top

theorem JobV3_1.allocSubgraphs_params {r : JobV3_1 × Status} (ok : j.allocSubgraphs = .ok r) :
    r.1.params = j.params := by
  obtain ⟨⟨k, n⟩, opt, rfl⟩ := JobV3_1.allocSubgraphs_ok.mp ok
  have kept := j.allocSubgraphBuffersOptimized_params opt
  dsimp only
  split_ifs
  · exact (JobV3_1.allocSubgraphBuffers_params _).trans kept
  · exact kept
  · exact kept

theorem JobV3_1.ownTasks_params (i : Nat) : (j.ownTasks i).1.params = j.params := by
  unfold JobV3_1.ownTasks
  dsimp only
  split <;> rfl

theorem JobV3_1.initTasks_params (sgIdx : Nat) (depAll : Bool) (ids : List Nat) :
    (j.initTasks sgIdx depAll ids).1.params = j.params := by
  induction ids generalizing j sgIdx depAll with
  | nil => rfl
  | cons i rest ih =>
    simp only [JobV3_1.initTasks]
    generalize (if decide (i ≠ 0 ∧ (j.subgraph i).precursorCnt = subgDependPreall) = true
      then 0 else sgIdx) = s
    generalize (if i ≠ 0 then false else _) = d
    split
    · exact ih _ _ _
    · split
      · exact (ih _ _ _).trans (j.ownTasks_params i)
      · exact j.ownTasks_params i

theorem JobV3_1.createIoBuffers_params : j.createIoBuffers.params = j.params := rfl

theorem JobV3_1.allocBuffers_params {r : JobV3_1 × Status} (ok : j.allocBuffers = .ok r) :
    r.1.params = j.params := by
  have wide := params_onSuccess j.allocModelParam_params fun b => b.allocJobWide_params
  rcases JobV3_1.allocBuffers_ok.mp ok with ⟨-, rfl⟩ | ⟨-, s, sub, rfl⟩
  · exact wide
  · exact params_onSuccess ((JobV3_1.allocSubgraphs_params _ sub).trans wide)
      fun d => d.initTasks_params 0 false _

end Params

/-! ## The writes refine the status -/

section Refinement

variable {j : JobV3_1} {env : ChainEnv}

/-- Once a subgraph's dependencies are accepted, a task TCB is written exactly when the
task's pointers can be read. -/
theorem JobV3_1.setupTaskTcb_status {groupIdx i t : Nat} {deps : TcbDeps}
    (accepted : (j.subgraph i).configTcbDeps i j.startGroupId = .ok (deps, .success)) :
    (j.setupTaskTcb env groupIdx i t).map Prod.snd =
      (j.taskPointers i t).map fun _ => .success := by
  obtain ⟨d, taskDeps⟩ : ∃ d, j.taskDeps i t = .ok (d, .success) := by
    unfold JobV3_1.taskDeps
    split
    · exact ⟨_, accepted⟩
    · exact ⟨_, rfl⟩
  unfold JobV3_1.setupTaskTcb
  rcases pointers : j.taskPointers i t with e | p <;>
    simp [taskDeps, pointers, bind, Except.bind, pure, Except.pure, Except.map]

/-- Once a subgraph's dependencies are accepted, its task loop goes through exactly
when `taskTcbReads` does. -/
theorem JobV3_1.setupTcbGroup_status {groupIdx i : Nat} {deps : TcbDeps}
    (accepted : (j.subgraph i).configTcbDeps i j.startGroupId = .ok (deps, .success)) :
    ∀ ts : List Nat, (j.setupTcbGroup env groupIdx i ts).map Prod.snd =
      (ts.forM fun t => discard (j.taskPointers i t)).map fun _ => .success
  | [] => rfl
  | t :: ts => by
    have step : (j.setupTaskTcb env groupIdx i t).map Prod.snd = _ :=
      j.setupTaskTcb_status accepted
    have rest : (j.setupTcbGroup env groupIdx i ts).map Prod.snd = _ :=
      setupTcbGroup_status accepted ts
    unfold JobV3_1.setupTcbGroup
    simp only [List.forM]
    rcases pointers : j.taskPointers i t with e | p <;> rw [pointers] at step <;>
      rcases task : j.setupTaskTcb env groupIdx i t with e' | ⟨w, st⟩ <;> rw [task] at step <;>
      cases step
    · rfl
    · refine Eq.trans ?_ rest
      rcases j.setupTcbGroup env groupIdx i ts with e'' | ⟨ws, st'⟩ <;> rfl

/-- What `setup_tcb_chain` does after its subgraph loop: stop with a refused status, or
dereference `m_rodata` and succeed. -/
def JobV3_1.chainEnd (j : JobV3_1) (st : Status) : Except Fault Status :=
  if st ≠ .success then pure st else if j.rodata.isNone then .error .nullRodata else pure .success

/-- The subgraph loop of the writes ends as the status-level chain does. -/
theorem JobV3_1.tcbChainLoop_status (env : ChainEnv) :
    ∀ (groupIdx : Nat) (ids : List Nat),
      (j.tcbChainLoop env groupIdx ids >>= fun r => j.chainEnd r.2) = j.setupTcbChain ids
  | _, [] => rfl
  | groupIdx, i :: rest => by
    have more : (j.tcbChainLoop env (groupIdx + 1) rest >>= fun r => j.chainEnd r.2) = _ :=
      tcbChainLoop_status env (groupIdx + 1) rest
    unfold JobV3_1.tcbChainLoop JobV3_1.setupTcbChain JobV3_1.taskTcbReads
    rcases deps : (j.subgraph i).configTcbDeps i j.startGroupId with e | ⟨d, st⟩
    · rfl
    by_cases refused : st ≠ .success
    · simp [bind, Except.bind, refused, pure, Except.pure, JobV3_1.chainEnd]
    rw [not_not] at refused
    subst refused
    have group : (j.setupTcbGroup env groupIdx i (List.range j.taskPerSg)).map Prod.snd = _ :=
      j.setupTcbGroup_status deps _
    rcases tasks : j.setupTcbGroup env groupIdx i (List.range j.taskPerSg) with e | ⟨ws, st'⟩ <;>
      rcases reads : (List.range j.taskPerSg).forM fun t => discard (j.taskPointers i t)
        with e' | u <;> rw [tasks, reads] at group <;> cases group
    · rfl
    · refine Eq.trans ?_ more
      rcases j.tcbChainLoop env (groupIdx + 1) rest with e'' | ⟨more, st''⟩ <;> rfl

/-- The TCBs the chain writes and the status-level chain agree on the outcome: the
writes are a refinement of `setupTcbChain`. -/
theorem JobV3_1.setupTcbChainWrites_status :
    (j.setupTcbChainWrites env).map Prod.snd = j.setupTcbChain (List.range j.graph.subgraphCnt) := by
  rw [← j.tcbChainLoop_status env j.startGroupId]
  unfold JobV3_1.setupTcbChainWrites
  rcases j.tcbChainLoop env j.startGroupId (List.range j.graph.subgraphCnt) with e | ⟨ws, st⟩
  · rfl
  · by_cases refused : st ≠ .success <;> by_cases noRodata : j.rodata.isNone <;>
      simp [bind, Except.bind, refused, noRodata, pure, Except.pure, Except.map, JobV3_1.chainEnd]

end Refinement

/-! ## The chain `init` builds -/

/-- A successful `init` is a successful `loadAndChain` of the job with its parameters
set and a start group id taken. -/
theorem JobV3_1.init_loadAndChain {j j' : JobV3_1} (ok : j.init = .ok (j', .success)) :
    ∃ k : JobV3_1, k.params = (j.graph, j.graph.subgraphCnt, 4, k.startGroupId) ∧
      k.loadAndChain = .ok (j', .success) := by
  unfold JobV3_1.init at ok
  split at ok
  · cases ok
  · dsimp only at ok
    split at ok
    · cases ok
    · refine ⟨_, ?_, ok⟩
      rfl

/-- A successful `loadAndChain` that returns a job with subgraphs ran the chain to
success on it. -/
theorem JobV3_1.loadAndChain_chain {k j' : JobV3_1} (ok : k.loadAndChain = .ok (j', .success))
    (hasGroups : 0 < j'.sgCnt) :
    j'.setupTcbChain (List.range j'.graph.subgraphCnt) = .ok .success := by
  unfold JobV3_1.loadAndChain at ok
  revert ok
  cases k.allocLoadJobBuffers with
  | error e => intro ok; cases ok
  | ok r =>
    obtain ⟨j₁, st⟩ := r
    dsimp only [bind, Except.bind]
    by_cases stop : st ≠ .success ∨ j₁.sgCnt = 0
    · rw [if_pos stop]
      intro ok
      cases ok
      exact absurd (stop.resolve_left (not_not.mpr rfl)) (Nat.pos_iff_ne_zero.mp hasGroups)
    · rw [if_neg stop]
      rcases chain : j₁.setupTcbChain (List.range j₁.graph.subgraphCnt) with e | st'
      · intro ok
        cases ok
      · intro ok
        cases ok
        exact chain

/-- A successful `init` returns the job with the graph it was given, `m_sg_cnt` its
subgraph count and `m_task_per_sg = 4`. -/
theorem JobV3_1.init_params {j j' : JobV3_1} (ok : j.init = .ok (j', .success)) :
    j'.graph = j.graph ∧ j'.sgCnt = j.graph.subgraphCnt ∧ j'.taskPerSg = 4 := by
  obtain ⟨k, set, load⟩ := JobV3_1.init_loadAndChain ok
  obtain ⟨s, alloc, -, rfl⟩ :=
    JobV3_1.allocLoadJobBuffers_success (JobV3_1.loadAndChain_success load)
  have kept := (s.createIoBuffers_params.trans (JobV3_1.allocBuffers_params _ alloc)).trans set
  simp only [JobV3_1.params, Prod.mk.injEq] at kept
  exact ⟨kept.1, kept.2.1, kept.2.2.1⟩

/-- On a job `init` builds, with subgraphs, the chain writes every TCB: the grid-init
TCB, then per subgraph its group-init TCB and its four task TCBs, each at its slot, the
ids taken modulo `2^16` and `tcbp` modulo `2^32`. -/
theorem init_tcb_chain_layout {j j' : JobV3_1} (ok : j.init = .ok (j', .success))
    (hasGroups : 0 < j.graph.subgraphCnt) (env : ChainEnv) :
    ∃ ws, j'.setupTcbChainWrites env = .ok (ws, .success) ∧
      ChainLayout ws env j.graph.subgraphCnt 4 j'.startGroupId := by
  obtain ⟨graph, sgCnt, four⟩ := JobV3_1.init_params ok
  obtain ⟨k, -, load⟩ := JobV3_1.init_loadAndChain ok
  have status : (j'.setupTcbChainWrites env).map Prod.snd = _ := JobV3_1.setupTcbChainWrites_status
  rw [JobV3_1.loadAndChain_chain load (sgCnt ▸ hasGroups)] at status
  rcases writes : j'.setupTcbChainWrites env with e | ⟨ws, st⟩ <;>
    rw [writes] at status <;> cases status
  refine ⟨ws, rfl, ?_⟩
  have laid := JobV3_1.setupTcbChainWrites_layout writes (by rw [graph, sgCnt])
  rwa [sgCnt, four] at laid

theorem init_tcb_chain_layout_scenario_e3 :
    ∃ j, (JobV3_1.create e3Graph true [] false [] .fresh (.once 0)).init = .ok (j, .success) ∧
      0 < (JobV3_1.create e3Graph true [] false [] .fresh (.once 0)).graph.subgraphCnt ∧
      ∃ ws, j.setupTcbChainWrites ⟨0, 0⟩ = .ok (ws, .success) ∧
        ChainLayout ws ⟨0, 0⟩ e3Graph.subgraphCnt 4 j.startGroupId :=
  ⟨_, rfl, by decide,
    init_tcb_chain_layout (j := JobV3_1.create e3Graph true [] false [] .fresh (.once 0)) rfl
      (by decide) ⟨0, 0⟩⟩

/-- A start group id of `0xffff`: the group-init TCB of subgraph 1 carries group id 0,
not `0x10000`. -/
theorem group_ids_wrap_at_sixteen_bits :
    ∃ j, (JobV3_1.create e3Graph true [] false [] .fresh (.once 0xffff)).init =
        .ok (j, .success) ∧ j.startGroupId = 0xffff ∧
      ((j.setupTcbChainWrites ⟨0, 0⟩).map fun r => r.1.lookup (groupInitSlot 4 1)) =
        .ok (some (.groupInit (tcbFlagTaskTypeGroupInit ||| tcbFlagGridInit) 0 0 [])) :=
  ⟨_, rfl, rfl, by decide⟩

/-! ## What `config_tcb_deps` lets through -/

/-- Scenario E3 with subgraph 0 naming itself as its one precursor. -/
def selfDependentGraph : Graph :=
  { e3Graph with subgraphs := ⟨1, [0], [⟨4096⟩], 64, 0⟩ :: e3Graph.subgraphs.tail }

/-- `init` builds the graph, and the group-init TCB of subgraph 0, group 5, waits on
group 5. -/
theorem init_accepts_self_dependent_group :
    ∃ j, (JobV3_1.create selfDependentGraph true [] false [] .fresh (.once 5)).init =
        .ok (j, .success) ∧ j.startGroupId = 5 ∧
      ((j.setupTcbChainWrites ⟨0, 0⟩).map fun r => r.1.lookup (groupInitSlot 4 0)) =
        .ok (some (.groupInit (tcbFlagTaskTypeGroupInit ||| tcbFlagGridInit ||| tcbFlagDepTypeGroup)
          0 5 [enGroupDepend ||| 5])) :=
  ⟨_, rfl, rfl, by decide⟩

/-! ## Descriptors the chain reads without a check -/

/-- Scenario E3 with no private data for subgraph 0. -/
def noPrivateDataGraph : Graph :=
  { e3Graph with subgraphs := ⟨0, [], [⟨4096⟩], 0, 0⟩ :: e3Graph.subgraphs.tail }

/-- Scenario E3 with a printf FIFO for subgraph 1 only. -/
def laterPrintfGraph : Graph :=
  { e3Graph with subgraphs := e3Graph.subgraphs.set 1 ⟨0, [], [⟨4096⟩], 64, 1024⟩ }

/-- Scenario E3 with empty rodata. -/
def noRodataGraph : Graph := { e3Graph with rodataSize := 0 }

/-- Each of the three graphs makes `init` dereference a null descriptor: the private
data of subgraph 0's first task, `m_pprint` for subgraph 1 (allocated only when subgraph
0 prints), and `m_rodata`. -/
theorem init_reads_null_descriptors :
    (JobV3_1.create noPrivateDataGraph true [] false [] .fresh (.once 0)).init =
        .error (.nullPrivateData 0) ∧
      (JobV3_1.create laterPrintfGraph true [] false [] .fresh (.once 0)).init =
        .error (.nullPrint 1) ∧
      (JobV3_1.create noRodataGraph true [] false [] .fresh (.once 0)).init = .error .nullRodata :=
  ⟨by decide, by decide, by decide⟩

end AipuUmd
