import AipuUmd.Job.Alloc

/-!
# The TCB chain

`setup_tcb_chain` fills the job's TCB buffer of `1 + m_sg_cnt * (m_task_per_sg + 1)`
`tcb_t` records: a grid-init TCB, then per subgraph a group-init TCB and one task TCB per
task. The group-init TCB of subgraph `i` goes to
`m_init_tcb.pa + sizeof(tcb_t) + (m_task_per_sg + 1) * i * sizeof(tcb_t)`, a task TCB to
`task.tcb.pa`, which `init_per_task_data` sets to
`m_tcbs->pa + (2 + i * (1 + m_task_per_sg) + j) * sizeof(tcb_t)` in both of its
branches; `m_init_tcb.pa` is `m_tcbs->pa`. A TCB is written as a slot of the buffer and
a record of the fields the job sets. `m_group_id_idx` starts at `m_start_group_id` and
grows by one per group; the 16-bit id fields keep it modulo `2^16`.

The flag constants are those of `tcb.h`. Subgraph `i` is read as `get_subgraph(i)`: the
parser that numbers subgraphs is not in the repository, and the chain takes the id of
the `i`-th subgraph to be `i`. What the records point into is named by the buffer;
the addresses the memory manager gives are not modelled, except the offset of `m_tcbs`
from its ASID base, which `tcbp` is computed from.

* `configTcbDeps_groups`: a 1-to-4 precursor count is accepted exactly when every
  precursor read is at most `0x7fff` and none is read past the vector; the dependencies
  are then `EN_GROUP_DEPEND | ((p + start) & 0x7FFF)`.
* `setupTcbChainWrites_layout`: a chain that succeeds writes every slot once, in order,
  with the records `setup_tcb_chain` describes.
-/

namespace AipuUmd

/-- `sizeof(tcb_t)`: the flag word, the 116-byte union and `group_deps[4]`. -/
def tcbSize : Nat := 128

/-! ## The flag word -/

/-- `TCB_FLAG_TASK_TYPE_GRID_INIT`. -/
def tcbFlagTaskTypeGridInit : Nat := 0

/-- `TCB_FLAG_TASK_TYPE_GROUP_INIT`. -/
def tcbFlagTaskTypeGroupInit : Nat := 1

/-- `TCB_FLAG_TASK_TYPE_TASK`. -/
def tcbFlagTaskTypeTask : Nat := 2

/-- `TCB_FLAG_DEP_TYPE_NONE`. -/
def tcbFlagDepTypeNone : Nat := 0

/-- `TCB_FLAG_DEP_TYPE_GROUP`. -/
def tcbFlagDepTypeGroup : Nat := 1 <<< 4

/-- `TCB_FLAG_DEP_TYPE_PRE_ALL`. -/
def tcbFlagDepTypePreAll : Nat := 2 <<< 4

/-- `TCB_FLAG_END_TYPE_GROUP_END`. -/
def tcbFlagEndTypeGroupEnd : Nat := 1 <<< 6

/-- `TCB_FLAG_END_TYPE_GRID_END`. -/
def tcbFlagEndTypeGridEnd : Nat := 1 <<< 7

/-- `TCB_FLAG_GRID_INIT`. -/
def tcbFlagGridInit : Nat := 1 <<< 21

/-- `TCB_FLAG_L2D_FLUSH`. -/
def tcbFlagL2dFlush : Nat := 1 <<< 22

/-- `EN_GROUP_DEPEND`. -/
def enGroupDepend : Nat := 1 <<< 15

/-- `TCB_FLAG_TASK_TYPE(flag)`. -/
def tcbFlagTaskType (flag : Nat) : Nat := flag &&& 0xF

/-- `TCB_FLAG_DEP_TYPE(flag)`. -/
def tcbFlagDepType (flag : Nat) : Nat := flag &&& 0x30

/-! ## `config_tcb_deps` -/

/-- What `config_tcb_deps` sets on a TCB: the `TCB_FLAG_DEP_TYPE_*` bits it ors into
`flag`, and `group_deps[0]`, `group_deps[1]`, ... as far as it writes them (the others
stay 0). -/
structure TcbDeps where
  depType : Nat
  groupDeps : List Nat
deriving DecidableEq, Repr

/-- The `1 ... 4` loop of `config_tcb_deps` over the next `n` entries of `precursors`:
each is read (past the end of the vector is a fault), one above `0x7fff` is
`AIPU_STATUS_ERROR_INVALID_GBIN`, and the others give
`EN_GROUP_DEPEND | dep_group_id` with the 16-bit
`dep_group_id = (precursors[i] + m_start_group_id) & 0x7FFF`. -/
def groupDepsLoop (sgId start : Nat) : List Nat → Nat → Except Fault (List Nat × Status)
  | _, 0 => pure ([], .success)
  | [], _ + 1 => .error (.precursors sgId)
  | p :: ps, n + 1 =>
    if p > 0x7fff then pure ([], .invalidGbin)
    else do
      let (deps, st) ← groupDepsLoop sgId start ps n
      pure ((enGroupDepend ||| ((p + start) % 2 ^ 16 &&& 0x7fff)) :: deps, st)

/-- `JobV3_1::config_tcb_deps(tcb, sg_id)` for subgraph `sg` with
`m_start_group_id = start`: no dependency, 1 to 4 precursor groups, PRE_ALL, or any
other count, which is an invalid graph binary. -/
def Subgraph.configTcbDeps (sg : Subgraph) (sgId start : Nat) : Except Fault (TcbDeps × Status) :=
  if sg.precursorCnt = 0 then pure (⟨tcbFlagDepTypeNone, []⟩, .success)
  else if 1 ≤ sg.precursorCnt ∧ sg.precursorCnt ≤ 4 then do
    let (deps, st) ← groupDepsLoop sgId start sg.precursors sg.precursorCnt.toNat
    pure (⟨tcbFlagDepTypeGroup, deps⟩, st)
  else if sg.precursorCnt = subgDependPreall then pure (⟨tcbFlagDepTypePreAll, []⟩, .success)
  else pure (⟨tcbFlagDepTypeNone, []⟩, .invalidGbin)

/-- Precursors that are all read within the vector and all at most `0x7fff` give one
dependency each. -/
theorem groupDepsLoop_of_fits (sgId start : Nat) :
    ∀ (ps : List Nat) (n : Nat), n ≤ ps.length → (∀ p ∈ ps.take n, p ≤ 0x7fff) →
      groupDepsLoop sgId start ps n =
        .ok ((ps.take n).map fun p => enGroupDepend ||| ((p + start) &&& 0x7fff), .success)
  | ps, 0, _, _ => by cases ps <;> rfl
  | [], n + 1, len, _ => absurd len (by simp)
  | p :: ps, n + 1, len, small => by
    have mask : (p + start) % 2 ^ 16 &&& 0x7fff = (p + start) &&& 0x7fff := by
      rw [show (0x7fff : Nat) = 2 ^ 15 - 1 by rfl, Nat.and_pow_two_sub_one_eq_mod,
        Nat.and_pow_two_sub_one_eq_mod, Nat.mod_mod_of_dvd _ (by decide)]
    simp only [List.take_succ_cons, List.mem_cons, forall_eq_or_imp] at small
    rw [groupDepsLoop, if_neg (Nat.not_lt.mpr small.1),
      groupDepsLoop_of_fits sgId start ps n (by simpa using len) small.2, mask]
    rfl

/-- A loop that goes through read every precursor within the vector and found each at
most `0x7fff`. -/
theorem groupDepsLoop_fits_of_success (sgId start : Nat) :
    ∀ (ps : List Nat) (n : Nat) (deps : List Nat),
      groupDepsLoop sgId start ps n = .ok (deps, .success) →
        n ≤ ps.length ∧ ∀ p ∈ ps.take n, p ≤ 0x7fff
  | _, 0, _, _ => ⟨Nat.zero_le _, by simp⟩
  | [], n + 1, _, ok => by cases ok
  | p :: ps, n + 1, deps, ok => by
    unfold groupDepsLoop at ok
    split at ok
    · cases ok
    next small =>
      revert ok
      cases rest : groupDepsLoop sgId start ps n with
      | error e => intro ok; cases ok
      | ok r =>
        obtain ⟨ds, st⟩ := r
        intro ok
        cases ok
        obtain ⟨len, small'⟩ := groupDepsLoop_fits_of_success sgId start ps n ds rest
        exact ⟨by simpa using len, by simpa [Nat.not_lt.mp small] using small'⟩

theorem groupDepsLoop_success (sgId start : Nat) (ps : List Nat) (n : Nat) (deps : List Nat) :
    groupDepsLoop sgId start ps n = .ok (deps, .success) ↔
      n ≤ ps.length ∧ (∀ p ∈ ps.take n, p ≤ 0x7fff) ∧
        deps = (ps.take n).map fun p => enGroupDepend ||| ((p + start) &&& 0x7fff) := by
  constructor
  · intro ok
    obtain ⟨len, small⟩ := groupDepsLoop_fits_of_success sgId start ps n deps ok
    rw [groupDepsLoop_of_fits sgId start ps n len small] at ok
    exact ⟨len, small, (Prod.mk.inj (Except.ok.inj ok)).1.symm⟩
  · rintro ⟨len, small, rfl⟩
    exact groupDepsLoop_of_fits sgId start ps n len small

/-- With a count of 1 to 4, `config_tcb_deps` accepts exactly when it reads every
precursor within the vector and each is at most `0x7fff`; each precursor `p` then
gives the dependency `EN_GROUP_DEPEND | ((p + start) & 0x7FFF)`. -/
theorem configTcbDeps_groups (sg : Subgraph) (sgId start : Nat) (deps : TcbDeps)
    (counted : 1 ≤ sg.precursorCnt ∧ sg.precursorCnt ≤ 4) :
    sg.configTcbDeps sgId start = .ok (deps, .success) ↔
      sg.precursorCnt.toNat ≤ sg.precursors.length ∧
        (∀ p ∈ sg.precursors.take sg.precursorCnt.toNat, p ≤ 0x7fff) ∧
        deps = ⟨tcbFlagDepTypeGroup, (sg.precursors.take sg.precursorCnt.toNat).map
          fun p => enGroupDepend ||| ((p + start) &&& 0x7fff)⟩ := by
  obtain ⟨type, groupDeps⟩ := deps
  have loop := groupDepsLoop_success sgId start sg.precursors sg.precursorCnt.toNat groupDeps
  rw [Subgraph.configTcbDeps, if_neg (by omega), if_pos counted]
  rcases h : groupDepsLoop sgId start sg.precursors sg.precursorCnt.toNat with e | ⟨ds, st⟩
  · simp only [h, bind, Except.bind, reduceCtorEq, false_iff, TcbDeps.mk.injEq] at loop ⊢
    exact fun ⟨len, small, _, same⟩ => loop ⟨len, small, same⟩
  · simp only [h, bind, Except.bind, pure, Except.pure, Except.ok.injEq, Prod.mk.injEq,
      TcbDeps.mk.injEq] at loop ⊢
    constructor
    · rintro ⟨⟨rfl, rfl⟩, rfl⟩
      obtain ⟨len, small, same⟩ := loop.mp ⟨rfl, rfl⟩
      exact ⟨len, small, rfl, same⟩
    · rintro ⟨len, small, rfl, same⟩
      obtain ⟨rfl, rfl⟩ := loop.mpr ⟨len, small, same⟩
      exact ⟨⟨rfl, rfl⟩, rfl⟩

theorem configTcbDeps_groups_two_precursors :
    (1 ≤ (⟨2, [0, 1], [], 0, 0⟩ : Subgraph).precursorCnt ∧
        (⟨2, [0, 1], [], 0, 0⟩ : Subgraph).precursorCnt ≤ 4) ∧
      ((⟨2, [0, 1], [], 0, 0⟩ : Subgraph).configTcbDeps 2 5 =
          .ok (⟨tcbFlagDepTypeGroup, [0x8005, 0x8006]⟩, .success) ↔
        2 ≤ 2 ∧ (∀ p ∈ [0, 1], p ≤ 0x7fff) ∧
          (⟨tcbFlagDepTypeGroup, [0x8005, 0x8006]⟩ : TcbDeps) =
            ⟨tcbFlagDepTypeGroup, [0, 1].map fun p => enGroupDepend ||| ((p + 5) &&& 0x7fff)⟩) :=
  ⟨by decide, configTcbDeps_groups ⟨2, [0, 1], [], 0, 0⟩ 2 5 _ (by decide)⟩

/-! ## The records -/

/-- The buffers a task TCB points into: `sp`, `pp` and `dp`, and `pprint` (with its
offset) and `global_param` when they are set. -/
structure TaskPointers where
  sp : BufferDesc
  pp : BufferDesc
  dp : BufferDesc
  pprint : Option (BufferDesc × Nat)
  globalParam : Option BufferDesc
deriving DecidableEq, Repr

/-- A task TCB as `setup_task_tcb` fills it: the flag word, `groupid`, `gridid`,
`taskid`, `task_id_x`, `tcbp`, `group_deps`, and the buffers it points into. -/
structure TaskTcb where
  flag : Nat
  groupid : Nat
  gridid : Nat
  taskid : Nat
  taskIdX : Nat
  tcbp : Nat
  groupDeps : List Nat
  pointers : TaskPointers
deriving DecidableEq, Repr

/-- A `tcb_t` as the chain writes it, by the part of its union it fills. -/
inductive Tcb
  /-- `flag`, `group_num`, `grid_gridid` and `grid_groupid` of the grid-init TCB. -/
  | gridInit (flag groupNum gridGridid gridGroupid : Nat)
  /-- `flag`, `group_gridid`, `group_groupid` and `group_deps` of a group-init TCB. -/
  | groupInit (flag groupGridid groupGroupid : Nat) (groupDeps : List Nat)
  /-- A task TCB. -/
  | task (tcb : TaskTcb)
deriving DecidableEq, Repr

/-- What the chain reads from outside the job's model: `m_grid_id`, and
`m_tcbs->pa - m_tcbs->asid_base`, the offset of the TCB buffer from its ASID base, which
the memory manager fixes. -/
structure ChainEnv where
  gridId : Nat
  tcbsOffset : Nat
deriving DecidableEq, Repr

/-- The slot of the group-init TCB of subgraph `i`,
`m_init_tcb.pa + sizeof(tcb_t) + (m_task_per_sg + 1) * i * sizeof(tcb_t)`. -/
def groupInitSlot (taskPerSg i : Nat) : Nat := 1 + (taskPerSg + 1) * i

/-- The slot `init_per_task_data` gives task `j` of subgraph `i`,
`task.tcb.init(m_tcbs->pa + (2 + i * (1 + m_task_per_sg) + j) * sizeof(tcb_t))`. -/
def taskTcbSlot (taskPerSg i j : Nat) : Nat := 2 + i * (1 + taskPerSg) + j

/-! ## The writers -/

/-- The dependencies of task `taskId` of subgraph `sgId`: `config_tcb_deps` for the
first task, none for the others. -/
def JobV3_1.taskDeps (j : JobV3_1) (sgId taskId : Nat) : Except Fault (TcbDeps × Status) :=
  if taskId = 0 then (j.subgraph sgId).configTcbDeps sgId j.startGroupId
  else pure (⟨tcbFlagDepTypeNone, []⟩, .success)

/-- The dereferences of `setup_task_tcb` for task `taskId` of subgraph `sgId`: the task,
its stack, `m_rodata` and its private data, `m_pprint` when the subgraph prints and
`m_model_global_param` when the job has configured shapes. -/
def JobV3_1.taskPointers (j : JobV3_1) (sgId taskId : Nat) : Except Fault TaskPointers := do
  let some task := (j.sgTask sgId).tasks.get? taskId | throw (.tasks sgId)
  let some sp := task.stack | throw (.nullStack sgId)
  let some pp := j.rodata | throw .nullRodata
  let some dp := task.privateData | throw (.nullPrivateData sgId)
  let pprint ← if 0 < (j.subgraph sgId).printfifoSize then
      match j.pprint with
      | some b => pure (some (b, aipuPageSize * sgId + 1024 * taskId))
      | none => throw (.nullPrint sgId)
    else pure none
  let globalParam ← if j.graph.dynamicShape ∧ j.dynShapeSet ∧ 0 < j.configShape.length then
      match j.modelGlobalParam with
      | some b => pure (some b)
      | none => throw .nullGlobalParam
    else pure none
  pure ⟨sp, pp, dp, pprint, globalParam⟩

/-- `JobV3_1::setup_task_tcb(sg_id, grid_id, core_id, task_id)` with
`m_group_id_idx = groupIdx`: the TCB of task `taskId` of subgraph `sgId` at the task's
slot, or nothing and the status of a refused dependency. -/
def JobV3_1.setupTaskTcb (j : JobV3_1) (env : ChainEnv) (groupIdx sgId taskId : Nat) :
    Except Fault (List (Nat × Tcb) × Status) := do
  let flag := tcbFlagTaskTypeTask |||
    (if taskId + 1 = j.taskPerSg then tcbFlagEndTypeGroupEnd else 0) |||
    (if sgId + 1 = j.sgCnt ∧ taskId + 1 = j.taskPerSg then tcbFlagEndTypeGridEnd else 0)
  let (deps, st) ← j.taskDeps sgId taskId
  if st ≠ .success then return ([], st)
  let pointers ← j.taskPointers sgId taskId
  let slot := taskTcbSlot j.taskPerSg sgId taskId
  pure ([(slot, .task ⟨flag ||| deps.depType, groupIdx % 2 ^ 16, env.gridId % 2 ^ 16,
    taskId % 2 ^ 16, taskId % 2 ^ 16, (env.tcbsOffset + slot * tcbSize) % 2 ^ 32,
    deps.groupDeps, pointers⟩)], .success)

/-- `JobV3_1::setup_tcb_group(sg_id, grid_id, core_id)` over the tasks `ts`: their TCBs
in order, until one is refused. The caller counts the group (`m_group_id_idx++`). -/
def JobV3_1.setupTcbGroup (j : JobV3_1) (env : ChainEnv) (groupIdx sgId : Nat) :
    List Nat → Except Fault (List (Nat × Tcb) × Status)
  | [] => pure ([], .success)
  | t :: ts => do
    let (w, st) ← j.setupTaskTcb env groupIdx sgId t
    if st ≠ .success then return (w, st)
    let (ws, st) ← j.setupTcbGroup env groupIdx sgId ts
    pure (w ++ ws, st)

/-- The subgraph loop of `setup_tcb_chain` from `m_group_id_idx = groupIdx`: per
subgraph its group-init TCB, then its task TCBs. A refused dependency or task ends the
chain with its status. -/
def JobV3_1.tcbChainLoop (j : JobV3_1) (env : ChainEnv) :
    Nat → List Nat → Except Fault (List (Nat × Tcb) × Status)
  | _, [] => pure ([], .success)
  | groupIdx, i :: rest => do
    let (deps, st) ← (j.subgraph i).configTcbDeps i j.startGroupId
    if st ≠ .success then return ([], st)
    let init : Tcb := .groupInit (tcbFlagTaskTypeGroupInit ||| tcbFlagGridInit ||| deps.depType)
      (env.gridId % 2 ^ 16) (groupIdx % 2 ^ 16) deps.groupDeps
    let (ws, st) ← j.setupTcbGroup env groupIdx i (List.range j.taskPerSg)
    if st ≠ .success then return ((groupInitSlot j.taskPerSg i, init) :: ws, st)
    let (more, st) ← j.tcbChainLoop env (groupIdx + 1) rest
    pure ((groupInitSlot j.taskPerSg i, init) :: ws ++ more, st)

/-- `JobV3_1::setup_tcb_chain` as the TCBs it writes, with `m_group_id_idx` starting at
`m_start_group_id`: the grid-init TCB at slot 0, then the subgraph loop; on success the
rodata address is written for the debugger, which dereferences `m_rodata`. -/
def JobV3_1.setupTcbChainWrites (j : JobV3_1) (env : ChainEnv) :
    Except Fault (List (Nat × Tcb) × Status) := do
  let grid : Tcb := .gridInit (tcbFlagTaskTypeGridInit ||| tcbFlagL2dFlush) j.sgCnt
    (env.gridId % 2 ^ 16) (j.startGroupId % 2 ^ 16)
  let (ws, st) ← j.tcbChainLoop env j.startGroupId (List.range j.graph.subgraphCnt)
  if st ≠ .success then return ((0, grid) :: ws, st)
  if j.rodata.isNone then throw .nullRodata
  pure ((0, grid) :: ws, .success)

/-! ## What a successful chain writes -/

/-- The dependency type a `config_tcb_deps` that goes through sets is one of the three. -/
theorem Subgraph.configTcbDeps_depType {sg : Subgraph} {sgId start : Nat} {deps : TcbDeps}
    (ok : sg.configTcbDeps sgId start = .ok (deps, .success)) :
    deps.depType = tcbFlagDepTypeNone ∨ deps.depType = tcbFlagDepTypeGroup ∨
      deps.depType = tcbFlagDepTypePreAll := by
  unfold Subgraph.configTcbDeps at ok
  split_ifs at ok
  · cases ok
    exact .inl rfl
  · revert ok
    cases groupDepsLoop sgId start sg.precursors sg.precursorCnt.toNat with
    | error e => nofun
    | ok r =>
      obtain ⟨ds, st⟩ := r
      intro ok
      cases ok
      exact .inr (.inl rfl)
  · cases ok
    exact .inr (.inr rfl)
  · cases ok

/-- A task's dependencies that go through are of one of the three types, and only the
first task has any. -/
theorem JobV3_1.taskDeps_success {j : JobV3_1} {sgId taskId : Nat} {deps : TcbDeps}
    (ok : j.taskDeps sgId taskId = .ok (deps, .success)) :
    (deps.depType = tcbFlagDepTypeNone ∨ deps.depType = tcbFlagDepTypeGroup ∨
      deps.depType = tcbFlagDepTypePreAll) ∧
      (taskId ≠ 0 → deps = ⟨tcbFlagDepTypeNone, []⟩) := by
  unfold JobV3_1.taskDeps at ok
  split_ifs at ok with first
  · exact ⟨Subgraph.configTcbDeps_depType ok, fun later => absurd first later⟩
  · cases ok
    exact ⟨.inl rfl, fun _ => rfl⟩

/-- The fields of a task TCB's flag word: its type, its two end bits and its dependency
type. -/
theorem taskFlag_fields (groupEnd gridEnd : Prop) [Decidable groupEnd] [Decidable gridEnd]
    {dep : Nat} (known : dep = tcbFlagDepTypeNone ∨ dep = tcbFlagDepTypeGroup ∨
      dep = tcbFlagDepTypePreAll) :
    let flag := tcbFlagTaskTypeTask ||| (if groupEnd then tcbFlagEndTypeGroupEnd else 0) |||
      (if gridEnd then tcbFlagEndTypeGridEnd else 0) ||| dep
    tcbFlagTaskType flag = tcbFlagTaskTypeTask ∧ (flag &&& tcbFlagEndTypeGroupEnd ≠ 0 ↔ groupEnd) ∧
      (flag &&& tcbFlagEndTypeGridEnd ≠ 0 ↔ gridEnd) ∧ tcbFlagDepType flag = dep := by
  rcases known with rfl | rfl | rfl <;> by_cases ge : groupEnd <;> by_cases gr : gridEnd <;>
    simp only [ge, gr, if_true, if_false] <;> decide

/-- What the TCB of task `t` of group `k` says in a chain of `S` groups of `T` tasks, the
group counted as `groupIdx`. -/
structure TaskTcb.Spec (r : TaskTcb) (env : ChainEnv) (S T groupIdx k t : Nat) : Prop where
  groupid : r.groupid = groupIdx % 2 ^ 16
  gridid : r.gridid = env.gridId % 2 ^ 16
  taskid : r.taskid = t % 2 ^ 16
  taskIdX : r.taskIdX = t % 2 ^ 16
  tcbp : r.tcbp = (env.tcbsOffset + taskTcbSlot T k t * tcbSize) % 2 ^ 32
  task : tcbFlagTaskType r.flag = tcbFlagTaskTypeTask
  groupEnd : r.flag &&& tcbFlagEndTypeGroupEnd ≠ 0 ↔ t + 1 = T
  gridEnd : r.flag &&& tcbFlagEndTypeGridEnd ≠ 0 ↔ k + 1 = S ∧ t + 1 = T
  noDeps : t ≠ 0 → tcbFlagDepType r.flag = tcbFlagDepTypeNone ∧ r.groupDeps = []

/-- A task TCB that is written is written at the task's slot and says what
`TaskTcb.Spec` says. -/
theorem JobV3_1.setupTaskTcb_success {j : JobV3_1} {env : ChainEnv} {groupIdx sgId taskId : Nat}
    {ws : List (Nat × Tcb)} (ok : j.setupTaskTcb env groupIdx sgId taskId = .ok (ws, .success)) :
    ∃ r, ws = [(taskTcbSlot j.taskPerSg sgId taskId, .task r)] ∧
      r.Spec env j.sgCnt j.taskPerSg groupIdx sgId taskId := by
  unfold JobV3_1.setupTaskTcb at ok
  rcases deps : j.taskDeps sgId taskId with e | ⟨d, st⟩
  · simp [deps, bind, Except.bind] at ok
  by_cases refused : st ≠ .success
  · simp [deps, bind, Except.bind, refused, pure, Except.pure] at ok
  rcases pointers : j.taskPointers sgId taskId with e | ptrs
  · simp [deps, bind, Except.bind, refused, pointers, pure, Except.pure] at ok
  simp only [deps, pointers, bind, Except.bind, refused, if_false, pure, Except.pure,
    Except.ok.injEq, Prod.mk.injEq] at ok
  obtain ⟨rfl, -⟩ := ok
  obtain ⟨known, later⟩ := j.taskDeps_success (not_not.mp refused ▸ deps)
  obtain ⟨task, groupEnd, gridEnd, depType⟩ := taskFlag_fields (taskId + 1 = j.taskPerSg)
    (sgId + 1 = j.sgCnt ∧ taskId + 1 = j.taskPerSg) known
  refine ⟨_, rfl, rfl, rfl, rfl, rfl, rfl, task, groupEnd, gridEnd, fun first => ?_⟩
  obtain rfl := later first
  exact ⟨depType, rfl⟩

/-- A group whose tasks `ts` all go through writes their TCBs at the tasks' slots, in
order. -/
theorem JobV3_1.setupTcbGroup_success {j : JobV3_1} {env : ChainEnv} {groupIdx k : Nat} :
    ∀ {ts : List Nat} {ws : List (Nat × Tcb)},
      j.setupTcbGroup env groupIdx k ts = .ok (ws, .success) →
        ws.map Prod.fst = ts.map (taskTcbSlot j.taskPerSg k) ∧
          ∀ t ∈ ts, ∃ r, (taskTcbSlot j.taskPerSg k t, .task r) ∈ ws ∧
            r.Spec env j.sgCnt j.taskPerSg groupIdx k t
  | [], ws, ok => by
    cases ok
    simp
  | t :: ts, ws, ok => by
    unfold JobV3_1.setupTcbGroup at ok
    rcases task : j.setupTaskTcb env groupIdx k t with e | ⟨w, st⟩
    · simp [task, bind, Except.bind] at ok
    by_cases refused : st ≠ .success
    · simp [task, bind, Except.bind, refused, pure, Except.pure] at ok
    rcases rest : j.setupTcbGroup env groupIdx k ts with e | ⟨more, st'⟩
    · simp [task, rest, bind, Except.bind, refused, pure, Except.pure] at ok
    simp only [task, rest, bind, Except.bind, refused, if_false, pure, Except.pure,
      Except.ok.injEq, Prod.mk.injEq] at ok
    obtain ⟨rfl, rfl⟩ := ok
    obtain ⟨r, rfl, spec⟩ := j.setupTaskTcb_success (not_not.mp refused ▸ task)
    obtain ⟨slots, tasks⟩ := setupTcbGroup_success rest
    refine ⟨by simp [slots], ?_⟩
    intro u mem
    rcases List.mem_cons.mp mem with rfl | mem
    · exact ⟨r, List.mem_cons_self _ _, spec⟩
    · obtain ⟨r', mem', spec'⟩ := tasks u mem
      exact ⟨r', List.mem_cons_of_mem _ mem', spec'⟩

/-- The TCBs of group `k` in a chain of `S` groups of `T` tasks, the group counted as
`groupIdx`: its group-init TCB and the TCB of each of its tasks are among `ws`. -/
def GroupLaid (ws : List (Nat × Tcb)) (env : ChainEnv) (S T groupIdx k : Nat) : Prop :=
  (∃ flag deps, (groupInitSlot T k,
      .groupInit flag (env.gridId % 2 ^ 16) (groupIdx % 2 ^ 16) deps) ∈ ws ∧
    tcbFlagTaskType flag = tcbFlagTaskTypeGroupInit ∧ flag &&& tcbFlagGridInit ≠ 0) ∧
  ∀ t < T, ∃ r, (taskTcbSlot T k t, .task r) ∈ ws ∧ r.Spec env S T groupIdx k t

theorem GroupLaid.mono {ws ws' : List (Nat × Tcb)} {env : ChainEnv} {S T groupIdx k : Nat}
    (laid : GroupLaid ws env S T groupIdx k) (sub : ∀ w ∈ ws, w ∈ ws') :
    GroupLaid ws' env S T groupIdx k :=
  let ⟨⟨flag, deps, mem, init⟩, tasks⟩ := laid
  ⟨⟨flag, deps, sub _ mem, init⟩, fun t lt =>
    let ⟨r, mem, spec⟩ := tasks t lt
    ⟨r, sub _ mem, spec⟩⟩

/-- A group-init flag word is of the group-init type and carries `TCB_FLAG_GRID_INIT`. -/
theorem groupFlag_fields {dep : Nat} (known : dep = tcbFlagDepTypeNone ∨
    dep = tcbFlagDepTypeGroup ∨ dep = tcbFlagDepTypePreAll) :
    let flag := tcbFlagTaskTypeGroupInit ||| tcbFlagGridInit ||| dep
    tcbFlagTaskType flag = tcbFlagTaskTypeGroupInit ∧ flag &&& tcbFlagGridInit ≠ 0 := by
  rcases known with rfl | rfl | rfl <;> decide

/-- A group's `T + 1` slots: its group-init TCB, then its task TCBs. -/
theorem groupSlots (T k : Nat) :
    groupInitSlot T k :: (List.range T).map (taskTcbSlot T k) =
      List.range' (1 + (T + 1) * k) (T + 1) := by
  rw [List.range'_succ, List.range'_eq_map_range]
  congr 1
  refine List.map_congr_left fun t _ => ?_
  rw [taskTcbSlot, Nat.mul_comm k, Nat.add_comm 1 T]
  omega

/-- A subgraph loop over subgraphs `a` to `a + m - 1` that goes through fills their
slots in order, each group counted from `groupIdx` on. -/
theorem JobV3_1.tcbChainLoop_success {j : JobV3_1} {env : ChainEnv} :
    ∀ {m a groupIdx : Nat} {ws : List (Nat × Tcb)},
      j.tcbChainLoop env groupIdx (List.range' a m) = .ok (ws, .success) →
        ws.map Prod.fst = List.range' (1 + (j.taskPerSg + 1) * a) (m * (j.taskPerSg + 1)) ∧
          ∀ k, a ≤ k → k < a + m → GroupLaid ws env j.sgCnt j.taskPerSg (groupIdx + (k - a)) k
  | 0, a, groupIdx, ws, ok => by
    cases ok
    exact ⟨by simp, fun k lo hi => absurd hi (by omega)⟩
  | m + 1, a, groupIdx, ws, ok => by
    rw [List.range'_succ] at ok
    unfold JobV3_1.tcbChainLoop at ok
    rcases deps : (j.subgraph a).configTcbDeps a j.startGroupId with e | ⟨d, st⟩
    · simp [deps, bind, Except.bind] at ok
    by_cases refused : st ≠ .success
    · simp [deps, bind, Except.bind, refused, pure, Except.pure] at ok
    rcases group : j.setupTcbGroup env groupIdx a (List.range j.taskPerSg) with e | ⟨tws, st'⟩
    · simp [deps, group, bind, Except.bind, refused, pure, Except.pure] at ok
    by_cases stopped : st' ≠ .success
    · simp [deps, group, bind, Except.bind, refused, stopped, pure, Except.pure] at ok
    rcases rest : j.tcbChainLoop env (groupIdx + 1) (List.range' (a + 1) m) with e | ⟨more, st''⟩
    · simp [deps, group, rest, bind, Except.bind, refused, stopped, pure, Except.pure] at ok
    simp only [deps, group, rest, bind, Except.bind, refused, stopped, if_false, pure,
      Except.pure, Except.ok.injEq, Prod.mk.injEq] at ok
    obtain ⟨rfl, rfl⟩ := ok
    rw [not_not] at refused stopped
    subst refused stopped
    obtain ⟨slots, tasks⟩ := j.setupTcbGroup_success group
    obtain ⟨slots', groups⟩ := tcbChainLoop_success rest
    refine ⟨?_, fun k lo hi => ?_⟩
    · simp only [List.map_append, List.map_cons, slots, slots']
      rw [groupSlots, show 1 + (j.taskPerSg + 1) * (a + 1) =
          1 + (j.taskPerSg + 1) * a + (j.taskPerSg + 1) by rw [Nat.mul_succ]; omega,
        List.range'_append_1, Nat.add_mul m 1, Nat.one_mul]
    · rcases Nat.lt_or_ge a k with later | first
      · have laid := groups k later (by omega)
        rw [show groupIdx + 1 + (k - (a + 1)) = groupIdx + (k - a) by omega] at laid
        exact laid.mono fun w mem => List.mem_append.mpr (.inr mem)
      · obtain rfl : k = a := by omega
        rw [Nat.sub_self, Nat.add_zero]
        obtain ⟨groupType, gridInit⟩ := groupFlag_fields (Subgraph.configTcbDeps_depType deps)
        refine ⟨⟨_, _, List.mem_append_left _ (List.mem_cons_self _ _), groupType, gridInit⟩,
          fun t lt => ?_⟩
        obtain ⟨r, mem, spec⟩ := tasks t (List.mem_range.mpr lt)
        exact ⟨r, List.mem_append_left _ (List.mem_cons_of_mem _ mem), spec⟩

/-- The layout of a chain of `S` groups of `T` tasks from group id `start`: one write per
slot, in slot order, the grid-init TCB first, and the TCBs of every group. -/
structure ChainLayout (ws : List (Nat × Tcb)) (env : ChainEnv) (S T start : Nat) : Prop where
  slots : ws.map Prod.fst = List.range (1 + S * (T + 1))
  gridInit : ∃ flag,
    ws.head? = some (0, .gridInit flag S (env.gridId % 2 ^ 16) (start % 2 ^ 16)) ∧
      tcbFlagTaskType flag = tcbFlagTaskTypeGridInit
  groups : ∀ k < S, GroupLaid ws env S T (start + k) k

/-- A chain that goes through, on a job whose `m_sg_cnt` is `get_subgraph_cnt()`, writes
every slot of the TCB buffer once, in order, with the TCBs `setup_tcb_chain` puts
there. -/
theorem JobV3_1.setupTcbChainWrites_layout {j : JobV3_1} {env : ChainEnv}
    {ws : List (Nat × Tcb)} (ok : j.setupTcbChainWrites env = .ok (ws, .success))
    (counted : j.graph.subgraphCnt = j.sgCnt) :
    ChainLayout ws env j.sgCnt j.taskPerSg j.startGroupId := by
  unfold JobV3_1.setupTcbChainWrites at ok
  rw [counted, List.range_eq_range'] at ok
  rcases loop : j.tcbChainLoop env j.startGroupId (List.range' 0 j.sgCnt) with e | ⟨gws, st⟩
  · simp [loop, bind, Except.bind] at ok
  by_cases stopped : st ≠ .success
  · simp [loop, bind, Except.bind, stopped, pure, Except.pure] at ok
  by_cases noRodata : j.rodata.isNone
  · simp [loop, bind, Except.bind, stopped, noRodata, pure, Except.pure] at ok
  simp only [loop, bind, Except.bind, stopped, noRodata, if_false, pure, Except.pure,
    Except.ok.injEq, Prod.mk.injEq] at ok
  obtain ⟨rfl, -⟩ := ok
  rw [not_not] at stopped
  subst stopped
  obtain ⟨slots, groups⟩ := j.tcbChainLoop_success loop
  refine ⟨?_, ⟨_, rfl, by decide⟩, fun k lt => ?_⟩
  · rw [List.map_cons, slots, List.range_eq_range', Nat.add_comm 1 (j.sgCnt * _), List.range'_succ]
    rfl
  · have laid := groups k (Nat.zero_le _) (by omega)
    rw [Nat.sub_zero] at laid
    exact laid.mono fun w mem => List.mem_cons_of_mem _ mem

end AipuUmd
