import AipuUmd.Job.Disjoint
import Mathlib.Data.List.Nodup

/-!
# The task loop of `init_per_task_data`

`init_per_task_data` goes through the subgraphs in order. A subgraph either gets tasks
of its own (stacks and private data freshly allocated, `ownTasks`) and joins
`m_sgt_allocated`, or, from a PRE_ALL subgraph on, takes over the tasks of
`m_sgt_allocated[sg_idx]` (`shareTasks`) while allocated subgraphs remain.

`JobV3_1.TaskInv` is what the loop keeps. The tasks of the allocating subgraphs are
fresh allocations, so the tasks of two of them are apart (`TaskInv.allocated_apart`).
A subgraph that shares takes the tasks of the allocating subgraph at its distance from
the last PRE_ALL subgraph, and within one stretch without PRE_ALL these distances differ.
So any two subgraphs with no PRE_ALL subgraph between them hold apart tasks
(`TaskInv.apart`), and the tasks of one subgraph are apart from each other
(`TaskInv.within`).

* `TaskInv.share`, `TaskInv.own`: one subgraph of the loop.
* `TaskInv.run`: the loop over any run of subgraphs, when it succeeds; `TaskInv.run_keeps`
  carries along any property each kind of step keeps.
* `TaskFrame.initTasks`: the loop changes no private buffer, and no field but the memory,
  the tasks and `m_sgt_allocated`.
-/

namespace AipuUmd

/-! ## Records and lists -/

theorem JobV3_1.sgTask_modifySgTask_ne (j : JobV3_1) {i k : Nat} (f : SubGraphTask → SubGraphTask)
    (ne : k ≠ i) : (j.modifySgTask k f).sgTask i = j.sgTask i := by
  simp only [JobV3_1.sgTask, JobV3_1.modifySgTask, List.getD_eq_getElem?_getD,
    List.getElem?_modify_ne _ _ ne]

theorem JobV3_1.sgTask_modifySgTask_self (j : JobV3_1) {i : Nat} (f : SubGraphTask → SubGraphTask)
    (lt : i < j.sgJob.length) : (j.modifySgTask i f).sgTask i = f (j.sgTask i) := by
  simp only [JobV3_1.sgTask, JobV3_1.modifySgTask, List.getD_eq_getElem?_getD,
    List.getElem?_modify_eq, List.getElem?_eq_getElem lt, Option.map_eq_map, Option.map_some',
    Option.getD_some]

theorem getD_mem_of_lt {l : List Nat} {x : Nat} (lt : x < l.length) : l.getD x 0 ∈ l := by
  rw [List.getD_eq_getElem?_getD, List.getElem?_eq_getElem lt, Option.getD_some]
  exact List.getElem_mem lt

theorem getD_ne_of_nodup {l : List Nat} (nodup : l.Nodup) {x y : Nat} (hx : x < l.length)
    (hy : y < l.length) (ne : x ≠ y) : l.getD x 0 ≠ l.getD y 0 := by
  rw [List.getD_eq_getElem?_getD, List.getElem?_eq_getElem hx, Option.getD_some,
    List.getD_eq_getElem?_getD, List.getElem?_eq_getElem hy, Option.getD_some]
  exact fun same => ne ((nodup.getElem_inj_iff).mp same)

theorem JobV3_1.shareTasks_sgTask_ne (j : JobV3_1) {i n : Nat} (src : Nat) (ne : i ≠ n) :
    (j.shareTasks n src).sgTask i = j.sgTask i :=
  j.sgTask_modifySgTask_ne _ (Ne.symm ne)

theorem JobV3_1.shareTasks_length (j : JobV3_1) (i src : Nat) :
    (j.shareTasks i src).sgJob.length = j.sgJob.length :=
  List.length_modify _ _ _

theorem JobV3_1.ownTasks_length (j : JobV3_1) (i : Nat) :
    (j.ownTasks i).1.sgJob.length = j.sgJob.length := by
  simp only [JobV3_1.ownTasks]
  split <;> exact List.length_modify _ _ _

/-- `ownTasks` when every task could be had. -/
theorem JobV3_1.ownTasks_of_success (j : JobV3_1) (i : Nat) (ok : (j.ownTasks i).2 = .success) :
    ∃ mem fresh,
      allocTasks j.graph.bss0.stackSize (j.subgraph i).privateDataSize j.mem j.taskPerSg =
        (mem, fresh, .success) ∧
      (j.ownTasks i).1 = { j.modifySgTask i (fun t => { t with tasks := t.tasks ++ fresh }) with
        mem, sgtAllocated := j.sgtAllocated ++ [i] } := by
  unfold JobV3_1.ownTasks at ok ⊢
  generalize allocTasks j.graph.bss0.stackSize (j.subgraph i).privateDataSize j.mem j.taskPerSg = r
    at ok ⊢
  obtain ⟨mem, fresh, st⟩ := r
  by_cases st_ok : st = .success
  · subst st_ok
    exact ⟨mem, fresh, rfl, rfl⟩
  · simp only [st_ok, if_false] at ok

/-! ## The invariant -/

/-- The buffers of the tasks of every subgraph in `m_sgt_allocated`, in that order. -/
def JobV3_1.taskPool (j : JobV3_1) : List BufferDesc :=
  j.sgtAllocated.flatMap fun a => taskBuffers (j.sgTask a).tasks

/-- The pool only depends on the tasks of the allocating subgraphs. -/
theorem JobV3_1.taskPool_congr {j k : JobV3_1} (alloc : k.sgtAllocated = j.sgtAllocated)
    (same : ∀ a ∈ j.sgtAllocated, (k.sgTask a).tasks = (j.sgTask a).tasks) :
    k.taskPool = j.taskPool := by
  unfold JobV3_1.taskPool
  rw [alloc, List.flatMap, List.flatMap, List.map_congr_left fun a ha => by rw [same a ha]]

/-- The pool grows by the tasks of a subgraph that joins `m_sgt_allocated`. -/
theorem JobV3_1.taskPool_join {j k : JobV3_1} {n : Nat} {fresh : List Task}
    (alloc : k.sgtAllocated = j.sgtAllocated ++ [n]) (mine : (k.sgTask n).tasks = fresh)
    (same : ∀ a ∈ j.sgtAllocated, (k.sgTask a).tasks = (j.sgTask a).tasks) :
    k.taskPool = j.taskPool ++ taskBuffers fresh := by
  unfold JobV3_1.taskPool
  rw [alloc, List.flatMap_append, List.flatMap_singleton, mine, List.flatMap, List.flatMap,
    List.map_congr_left fun a ha => by rw [same a ha]]

/-- What `init_per_task_data` keeps once subgraphs `[0, n)` have their tasks. The tasks
of the allocating subgraphs are fresh allocations, apart from each other; every
subgraph so far holds the tasks of one of them; two subgraphs with no PRE_ALL between
them are apart; and while `dep_all_flag` is set, the subgraphs since the last PRE_ALL
hold the tasks of `m_sgt_allocated[0]`, `m_sgt_allocated[1]`, ... up to `sg_idx`. -/
structure JobV3_1.TaskInv (j : JobV3_1) (n sgIdx : Nat) (depAll : Bool) : Prop where
  later : ∀ i, n ≤ i → (j.sgTask i).tasks = []
  pool : FreshIn j.taskPool 0 j.mem.nextId
  nodup : j.sgtAllocated.Nodup
  below : ∀ a ∈ j.sgtAllocated, a < n
  length : ∀ a ∈ j.sgtAllocated, (j.sgTask a).tasks.length = j.taskPerSg
  owner : ∀ i < n, ∃ a ∈ j.sgtAllocated, (j.sgTask i).tasks = (j.sgTask a).tasks
  apart : ∀ i k, i < k → k < n → j.graph.NoPreallBetween i k →
    TasksApart (j.sgTask i).tasks (j.sgTask k).tasks
  epoch : depAll = true → ∃ p, 0 < p ∧ p + sgIdx = n ∧ sgIdx ≤ j.sgtAllocated.length ∧
    (j.graph.subgraph p).precursorCnt = subgDependPreall ∧ j.graph.NoPreallBetween p (n - 1) ∧
    ∀ x < sgIdx, (j.sgTask (p + x)).tasks = (j.sgTask (j.sgtAllocated.getD x 0)).tasks

section TaskInv

variable {j : JobV3_1} {n sgIdx : Nat} {depAll : Bool}

/-- Two allocating subgraphs hold apart tasks. -/
theorem JobV3_1.TaskInv.allocated_apart (inv : j.TaskInv n sgIdx depAll) {a b : Nat}
    (ha : a ∈ j.sgtAllocated) (hb : b ∈ j.sgtAllocated) (ne : a ≠ b) :
    TasksApart (j.sgTask a).tasks (j.sgTask b).tasks :=
  TasksApart.of_buffers (inv.pool.flatMap_apart ha hb ne)

/-- The tasks of one subgraph are apart from each other. -/
theorem JobV3_1.TaskInv.within (inv : j.TaskInv n sgIdx depAll)
    {i : Nat} (lt : i < n) : (j.sgTask i).tasks.Pairwise Task.Apart := by
  obtain ⟨a, ha, eq⟩ := inv.owner i lt
  rw [eq]
  exact (List.pairwise_flatMap.mp ((List.pairwise_flatMap.mp inv.pool.apart).1 a ha)).2

/-- At subgraph 0 no PRE_ALL has been seen. -/
theorem JobV3_1.TaskInv.depAll_zero (inv : j.TaskInv 0 sgIdx depAll) : depAll = false := by
  cases depAll with
  | false => rfl
  | true =>
    obtain ⟨p, pos, sum, -⟩ := inv.epoch rfl
    omega

/-! ## One subgraph -/

/-- The step of a subgraph that takes over the tasks of `m_sgt_allocated[sg_idx']`,
where `sg_idx'` is 0 at a PRE_ALL subgraph. -/
theorem JobV3_1.TaskInv.share (inv : j.TaskInv n sgIdx depAll) (inRange : n < j.sgJob.length)
    {sgIdx' : Nat}
    (hIdx : sgIdx' = if (j.graph.subgraph n).precursorCnt = subgDependPreall then 0 else sgIdx)
    (flag : (j.graph.subgraph n).precursorCnt = subgDependPreall ∨ depAll = true)
    (avail : sgIdx' < j.sgtAllocated.length) :
    (j.shareTasks n (j.sgtAllocated.getD sgIdx' 0)).TaskInv (n + 1) (sgIdx' + 1) true := by
  set src := j.sgtAllocated.getD sgIdx' 0 with hsrc
  have srcMem : src ∈ j.sgtAllocated := getD_mem_of_lt avail
  have srcLt : src < n := inv.below src srcMem
  have other : ∀ i, i ≠ n → ((j.shareTasks n src).sgTask i).tasks = (j.sgTask i).tasks :=
    fun i ne => by rw [j.shareTasks_sgTask_ne src ne]
  have mine : ((j.shareTasks n src).sgTask n).tasks = (j.sgTask src).tasks := by
    unfold JobV3_1.shareTasks
    rw [j.sgTask_modifySgTask_self _ inRange]
    simp only [inv.later n le_rfl, List.nil_append]
    exact List.take_of_length_le (inv.length src srcMem).le
  have keep :
      ∀ a ∈ j.sgtAllocated, ((j.shareTasks n src).sgTask a).tasks = (j.sgTask a).tasks :=
    fun a ha => other a (Nat.ne_of_lt (inv.below a ha))
  -- the subgraphs since the last PRE_ALL, with this one
  have epoch :
      ∃ p, 0 < p ∧ p + (sgIdx' + 1) = n + 1 ∧ sgIdx' + 1 ≤ j.sgtAllocated.length ∧
      (j.graph.subgraph p).precursorCnt = subgDependPreall ∧ j.graph.NoPreallBetween p n ∧
      ∀ x < sgIdx' + 1, ((j.shareTasks n src).sgTask (p + x)).tasks =
        ((j.shareTasks n src).sgTask (j.sgtAllocated.getD x 0)).tasks := by
    by_cases preall : (j.graph.subgraph n).precursorCnt = subgDependPreall
    · rw [if_pos preall] at hIdx
      subst hIdx
      refine ⟨n, Nat.pos_of_ne_zero fun zero => ?_, rfl, avail, preall,
        fun q lo hi => by omega, ?_⟩
      · exact absurd (inv.below src srcMem) (by omega)
      · intro x hx
        obtain rfl : x = 0 := by omega
        rw [Nat.add_zero, mine, keep _ srcMem]
    · rw [if_neg preall] at hIdx
      subst hIdx
      obtain ⟨p, pos, sum, le, pre, between, held⟩ := inv.epoch (flag.resolve_left preall)
      refine ⟨p, pos, by omega, avail, pre, fun q lo hi => ?_, fun x hx => ?_⟩
      · rcases Nat.lt_or_ge q n with lt | ge
        · exact between q lo (by omega)
        · rwa [show q = n by omega]
      · rw [keep _ (getD_mem_of_lt (by omega))]
        rcases Nat.lt_or_ge x sgIdx' with lt | ge
        · rw [other _ (by omega), held x lt]
        · rw [show p + x = n by omega, show x = sgIdx' by omega, mine]
  refine ⟨fun i hi => ?_, ?_, inv.nodup, fun a ha => Nat.lt_succ_of_lt (inv.below a ha),
    fun a ha => by rw [keep a ha]; exact inv.length a ha, fun i hi => ?_,
    fun i k hik hk between => ?_, fun _ => epoch⟩
  · rw [other i (by omega)]
    exact inv.later i (by omega)
  · rw [JobV3_1.taskPool_congr (j := j) (k := j.shareTasks n src) rfl keep]
    exact inv.pool
  · rcases Nat.lt_or_ge i n with lt | ge
    · obtain ⟨a, ha, eq⟩ := inv.owner i lt
      exact ⟨a, ha, by rw [other i (by omega), keep a ha, eq]⟩
    · obtain rfl : i = n := by omega
      exact ⟨src, srcMem, by rw [mine, keep src srcMem]⟩
  · rcases Nat.lt_or_ge k n with lt | ge
    · rw [other i (by omega), other k (by omega)]
      exact inv.apart i k hik lt between
    obtain rfl : k = n := by omega
    have notPre : (j.graph.subgraph k).precursorCnt ≠ subgDependPreall := between k hik le_rfl
    rw [if_neg notPre] at hIdx
    subst hIdx
    obtain ⟨p, -, sum, le, pre, -, held⟩ := inv.epoch (flag.resolve_left notPre)
    have after : p ≤ i := Nat.le_of_not_lt fun lt => between p lt (by omega) pre
    have xMem : j.sgtAllocated.getD (i - p) 0 ∈ j.sgtAllocated := getD_mem_of_lt (by omega)
    rw [other i (by omega), show i = p + (i - p) by omega, held _ (by omega), mine]
    exact inv.allocated_apart xMem srcMem (getD_ne_of_nodup inv.nodup (by omega) avail (by omega))

/-- The step of a subgraph that gets tasks of its own. The loop then clears
`dep_all_flag`, or keeps it clear at subgraph 0. -/
theorem JobV3_1.TaskInv.own (inv : j.TaskInv n sgIdx depAll) (inRange : n < j.sgJob.length)
    (ok : (j.ownTasks n).2 = .success) (sgIdx' : Nat) :
    (j.ownTasks n).1.TaskInv (n + 1) sgIdx' false := by
  obtain ⟨mem, fresh, alloc, result⟩ := j.ownTasks_of_success n ok
  obtain ⟨len, grows, isFresh⟩ := allocTasks_fresh _ _ _ _ (by rw [alloc])
  rw [alloc] at len grows isFresh
  rw [result]
  set j₁ := { j.modifySgTask n (fun t => { t with tasks := t.tasks ++ fresh }) with
    mem, sgtAllocated := j.sgtAllocated ++ [n] }
  have other : ∀ i, i ≠ n → (j₁.sgTask i).tasks = (j.sgTask i).tasks :=
    fun i ne => congrArg SubGraphTask.tasks (j.sgTask_modifySgTask_ne _ (Ne.symm ne))
  have mine : (j₁.sgTask n).tasks = fresh := by
    show ((j.modifySgTask n _).sgTask n).tasks = fresh
    rw [j.sgTask_modifySgTask_self _ inRange]
    simp only [inv.later n le_rfl, List.nil_append]
  have keep : ∀ a ∈ j.sgtAllocated, (j₁.sgTask a).tasks = (j.sgTask a).tasks :=
    fun a ha => other a (Nat.ne_of_lt (inv.below a ha))
  have pool : j₁.taskPool = j.taskPool ++ taskBuffers fresh := JobV3_1.taskPool_join rfl mine keep
  have oldOwned : ∀ a ∈ j.sgtAllocated,
      ∀ b ∈ taskBuffers (j.sgTask a).tasks, b.OwnedIn 0 j.mem.nextId :=
    fun a ha b hb => inv.pool.owned b (List.mem_flatMap.mpr ⟨a, ha, hb⟩)
  refine ⟨fun i hi => ?_, ?_, ?_, fun a ha => ?_, fun a ha => ?_, fun i hi => ?_,
    fun i k hik hk between => ?_, fun no => absurd no Bool.false_ne_true⟩
  · rw [other i (by omega)]
    exact inv.later i (by omega)
  · rw [pool]
    exact inv.pool.append isFresh (Nat.zero_le _) grows
  · exact List.nodup_append.mpr ⟨inv.nodup, List.nodup_singleton n,
      List.disjoint_singleton.mpr fun mem => Nat.lt_irrefl n (inv.below n mem)⟩
  · rcases List.mem_append.mp ha with ha | ha
    · exact Nat.lt_succ_of_lt (inv.below a ha)
    · rw [List.mem_singleton.mp ha]
      exact Nat.lt_succ_self n
  · rcases List.mem_append.mp ha with ha | ha
    · rw [keep a ha]
      exact inv.length a ha
    · rw [List.mem_singleton.mp ha, mine]
      exact len
  · rcases Nat.lt_or_ge i n with lt | ge
    · obtain ⟨a, ha, eq⟩ := inv.owner i lt
      exact ⟨a, List.mem_append_left _ ha, by rw [other i (by omega), keep a ha, eq]⟩
    · obtain rfl : i = n := by omega
      exact ⟨i, List.mem_append_right _ (List.mem_singleton_self i), rfl⟩
  · rcases Nat.lt_or_ge k n with lt | ge
    · rw [other i (by omega), other k (by omega)]
      exact inv.apart i k hik lt between
    obtain rfl : k = n := by omega
    obtain ⟨a, ha, eq⟩ := inv.owner i hik
    rw [other i (by omega), mine, eq]
    exact TasksApart.of_buffers fun b hb c hc =>
      (oldOwned a ha b hb).disjoint (isFresh.owned c hc) le_rfl

/-! ## The loop -/

/-- The loop of `init_per_task_data` over subgraphs `[n, n + m)` keeps the invariant, and
any property `P` that each kind of step keeps under the invariant. -/
theorem JobV3_1.TaskInv.run_keeps (P : JobV3_1 → Prop)
    (share : ∀ {j : JobV3_1} {n s : Nat} {d : Bool} (src : Nat), j.TaskInv n s d →
      P j → P (j.shareTasks n src))
    (own : ∀ {j : JobV3_1} {n s : Nat} {d : Bool}, j.TaskInv n s d → n < j.sgJob.length →
      (j.ownTasks n).2 = .success → P j → P (j.ownTasks n).1)
    (m : Nat) (inv : j.TaskInv n sgIdx depAll) (p : P j) (inRange : n + m ≤ j.sgJob.length)
    (ok : (j.initTasks sgIdx depAll (List.range' n m)).2 = .success) :
    P (j.initTasks sgIdx depAll (List.range' n m)).1 ∧
      ∃ s d, (j.initTasks sgIdx depAll (List.range' n m)).1.TaskInv (n + m) s d := by
  induction m generalizing j n sgIdx depAll with
  | zero => exact ⟨p, _, _, inv⟩
  | succ m ih =>
    rw [List.range'_succ] at ok ⊢
    simp only [JobV3_1.initTasks] at ok ⊢
    rw [show n + (m + 1) = n + 1 + m by omega] at inRange ⊢
    generalize hIdx : (if decide (n ≠ 0 ∧ (j.subgraph n).precursorCnt = subgDependPreall) = true
      then 0 else sgIdx) = sgIdx' at ok ⊢
    by_cases c : n ≠ 0 ∧
      (decide (n ≠ 0 ∧ (j.subgraph n).precursorCnt = subgDependPreall) || depAll) = true ∧
      sgIdx' < j.sgtAllocated.length
    · rw [if_pos c, c.2.1] at ok ⊢
      obtain ⟨n0, flag, avail⟩ := c
      simp only [Bool.or_eq_true, decide_eq_true_eq, ne_eq, n0, not_false_eq_true, true_and]
        at flag hIdx
      have inv' := inv.share (by omega) hIdx.symm flag avail
      exact ih inv' (share _ inv p) (by rw [JobV3_1.shareTasks_length]; omega) ok
    · rw [if_neg c] at ok ⊢
      by_cases own' : (j.ownTasks n).2 = .success
      · have next : (if n ≠ 0 then false else
            decide (n ≠ 0 ∧ (j.subgraph n).precursorCnt = subgDependPreall) || depAll) =
              false := by
          by_cases n0 : n = 0
          · subst n0
            simp [inv.depAll_zero]
          · simp [n0]
        rw [if_pos own', next] at ok ⊢
        exact ih (inv.own (by omega) own' sgIdx') (own inv (by omega) own' p)
          (by rw [JobV3_1.ownTasks_length]; omega) ok
      · rw [if_neg own'] at ok
        exact absurd ok own'

/-- The loop of `init_per_task_data` over subgraphs `[n, n + m)` keeps the invariant. -/
theorem JobV3_1.TaskInv.run (m : Nat) (inv : j.TaskInv n sgIdx depAll)
    (inRange : n + m ≤ j.sgJob.length)
    (ok : (j.initTasks sgIdx depAll (List.range' n m)).2 = .success) :
    ∃ s d, (j.initTasks sgIdx depAll (List.range' n m)).1.TaskInv (n + m) s d :=
  (JobV3_1.TaskInv.run_keeps (fun _ => True) (fun _ _ _ => trivial) (fun _ _ _ _ => trivial) m inv
    trivial inRange ok).2

end TaskInv

/-! ## What the loop leaves alone -/

/-- Changing one element of a list leaves what `g` reads of the list, when the change
leaves what `g` reads of the element. -/
theorem flatMap_modify {α β : Type} (g : α → List β) (f : α → α) (keep : ∀ a, g (f a) = g a) :
    ∀ (i : Nat) (l : List α), (l.modify f i).flatMap g = l.flatMap g
  | _, [] => by simp
  | 0, a :: l => by simp [keep]
  | i + 1, a :: l => by simp [flatMap_modify g f keep i l]

/-- Changing the tasks of a record changes no private buffer. -/
@[simp] theorem privates_modifyTasks (l : List SubGraphTask) (i : Nat) (g : SubGraphTask → List Task) :
    (l.modify (fun t => { t with tasks := g t }) i).flatMap SubGraphTask.reusePrivBuffers =
      l.flatMap SubGraphTask.reusePrivBuffers :=
  flatMap_modify _ (fun t => { t with tasks := g t }) (fun _ => rfl) i l

/-- What the task loop leaves alone: every field but the memory, the records' tasks and
`m_sgt_allocated`, and so the graph, the subgraph count, and the private buffers of every
record. -/
structure JobV3_1.TaskFrame (a b : JobV3_1) : Prop where
  graph : b.graph = a.graph
  sgCnt : b.sgCnt = a.sgCnt
  privateBuffers : ∀ i, (b.sgTask i).reusePrivBuffers = (a.sgTask i).reusePrivBuffers
  others : b = { a with mem := b.mem, sgJob := b.sgJob, sgtAllocated := b.sgtAllocated }
  length : b.sgJob.length = a.sgJob.length
  privates : b.sgJob.flatMap SubGraphTask.reusePrivBuffers = a.sgJob.flatMap SubGraphTask.reusePrivBuffers

theorem JobV3_1.TaskFrame.refl (j : JobV3_1) : j.TaskFrame j :=
  ⟨rfl, rfl, fun _ => rfl, rfl, rfl, rfl⟩

theorem JobV3_1.TaskFrame.trans {a b c : JobV3_1} (first : a.TaskFrame b) (second : b.TaskFrame c) :
    a.TaskFrame c :=
  ⟨second.graph.trans first.graph, second.sgCnt.trans first.sgCnt,
    fun i => (second.privateBuffers i).trans (first.privateBuffers i),
    by rw [second.others, first.others], second.length.trans first.length,
    second.privates.trans first.privates⟩

/-- Changing the tasks of one record. -/
theorem JobV3_1.TaskFrame.modifyTasks (j : JobV3_1) (i : Nat) (g : SubGraphTask → List Task) :
    j.TaskFrame (j.modifySgTask i fun t => { t with tasks := g t }) := by
  refine ⟨rfl, rfl, fun k => ?_, rfl, List.length_modify _ _ _, privates_modifyTasks _ _ _⟩
  simp only [JobV3_1.sgTask, JobV3_1.modifySgTask, List.getD_eq_getElem?_getD, List.getElem?_modify]
  cases j.sgJob[k]? with
  | none => rfl
  | some t => by_cases h : i = k <;> simp [h]

theorem JobV3_1.TaskFrame.ownTasks (j : JobV3_1) (i : Nat) : j.TaskFrame (j.ownTasks i).1 := by
  have h := JobV3_1.TaskFrame.modifyTasks j i fun t =>
    t.tasks ++
      (allocTasks j.graph.bss0.stackSize (j.subgraph i).privateDataSize j.mem j.taskPerSg).2.1
  simp only [JobV3_1.ownTasks]
  split <;> exact ⟨h.graph, h.sgCnt, h.privateBuffers, rfl, h.length, h.privates⟩

theorem JobV3_1.TaskFrame.initTasks (j : JobV3_1) (sgIdx : Nat) (depAll : Bool) (l : List Nat) :
    j.TaskFrame (j.initTasks sgIdx depAll l).1 := by
  induction l generalizing j sgIdx depAll with
  | nil => exact .refl j
  | cons i rest ih =>
    simp only [JobV3_1.initTasks]
    generalize (if decide (i ≠ 0 ∧ (j.subgraph i).precursorCnt = subgDependPreall) = true
      then 0 else sgIdx) = s
    generalize (if i ≠ 0 then false else _) = d
    split
    · exact (JobV3_1.TaskFrame.modifyTasks j i _).trans (ih _ _ _)
    · split
      · exact (JobV3_1.TaskFrame.ownTasks j i).trans (ih _ _ _)
      · exact JobV3_1.TaskFrame.ownTasks j i

end AipuUmd
