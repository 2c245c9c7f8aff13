import AipuUmd.Job.Lifecycle
import AipuUmd.Job.Carving

/-!
# The layout the two allocation paths build

Both paths give each subgraph one private buffer per non-empty private section, in
section order: the scatter path an allocation of the section's size, the centralized
path a view of `tot_priv` of the page-aligned size.

They part on `m_bss_buffer_vec`. The centralized path pushes one `BSSBuffer` per BSS.
The scatter path guards its BSS loop with `sg_task.id == 0`, and after the subgraph
loop `sg_task` is the last subgraph's record, so with two subgraphs or more it pushes
none (`scatter_path_drops_bss_buffers`). `alloc_load_job_buffers` then reads
`m_bss_buffer_vec[0]` of an empty vector.

The centralized path allocates `tot_priv` only when `max_private_size` is not 0, a
`uint32_t` sum that is 0 again at `2^32`, and makes the views through `m_top_priv_buf`
all the same: private sections adding up to `2^32` make it read a null pointer
(`wrapped_private_size_faults`).

Both paths also skip empty reuse sections when they fill `reuses`, while the parser's
`m_reuse_buf_idx`, which I/O tensors record, counts them. A reuse index past an empty
section then selects the next section's buffer (`empty_reuse_section_shifts_buffers`).
-/

namespace AipuUmd

/-! ## `m_bss_buffer_vec` on the scatter path -/

theorem JobV3_1.allocSgPrivate_frame (j : JobV3_1) (t : SubGraphTask) (ids : List Nat) :
    (j.allocSgPrivate t ids).1.bssBufferVec = j.bssBufferVec ∧
      (j.allocSgPrivate t ids).1.graph = j.graph := by
  induction ids generalizing j t with
  | nil => exact ⟨rfl, rfl⟩
  | cons i rest ih =>
    simp only [JobV3_1.allocSgPrivate]
    split
    · exact ih _ _
    · exact ⟨rfl, rfl⟩

/-- After the subgraph loop `sg_task` is the record of the last subgraph. -/
theorem JobV3_1.allocSgPrivate_id (j : JobV3_1) (t : SubGraphTask) (ids : List Nat)
    (ok : (j.allocSgPrivate t ids).2.2 = .success) :
    (j.allocSgPrivate t ids).2.1.id = ids.getLastD t.id := by
  induction ids generalizing j t with
  | nil => rfl
  | cons i rest ih =>
    simp only [JobV3_1.allocSgPrivate] at ok ⊢
    by_cases h : (allocSections j.mem (j.subgraph i).privateBuffers).2.2 = .success
    · rw [if_pos h] at ok ⊢
      rw [ih _ _ ok]
      cases rest <;> rfl
    · rw [if_neg h] at ok
      exact absurd ok h

theorem JobV3_1.allocBssScatter_of_ne (j : JobV3_1) {lastId : Nat} (ne : lastId ≠ 0)
    (ids : List Nat) : j.allocBssScatter lastId ids = (j, .success) := by
  induction ids with
  | nil => rfl
  | cons _ rest ih => rw [JobV3_1.allocBssScatter, if_neg ne, ih]

theorem JobV3_1.allocPrintf_bssBufferVec (j : JobV3_1) :
    j.allocPrintf.1.bssBufferVec = j.bssBufferVec := by
  unfold JobV3_1.allocPrintf
  split
  · split <;> rfl
  · rfl

/-- With two subgraphs or more a successful scatter path pushes no `BSSBuffer`. -/
theorem JobV3_1.allocSubgraphBuffers_bssBufferVec (j : JobV3_1) (two : 2 ≤ j.sgCnt)
    (ok : j.allocSubgraphBuffers.2 = .success) :
    j.allocSubgraphBuffers.1.bssBufferVec = j.bssBufferVec := by
  unfold JobV3_1.allocSubgraphBuffers at ok ⊢
  obtain ⟨frameV, -⟩ := j.allocSgPrivate_frame (SubGraphTask.reset 0) (List.range j.sgCnt)
  by_cases h : (j.allocSgPrivate (SubGraphTask.reset 0) (List.range j.sgCnt)).2.2 = .success
  · have last := j.allocSgPrivate_id _ _ h
    rw [List.getLastD_eq_getLast?, List.getLast?_range, if_neg (by omega), Option.getD_some] at last
    have ne : (j.allocSgPrivate (SubGraphTask.reset 0) (List.range j.sgCnt)).2.1.id ≠ 0 := by
      omega
    simp only [h, ne_eq, not_true_eq_false, if_false, JobV3_1.allocBssScatter_of_ne _ ne] at ok ⊢
    rw [JobV3_1.allocPrintf_bssBufferVec, frameV]
  · simp only [h, ne_eq, not_false_eq_true, if_true] at ok

/-! ## `m_bss_buffer_vec` on the centralized path -/

theorem JobV3_1.allocBssCentral_length (j : JobV3_1) (base : Nat) (ids : List Nat)
    (ok : (j.allocBssCentral base ids).2 = 0) :
    (j.allocBssCentral base ids).1.bssBufferVec.length = j.bssBufferVec.length + ids.length := by
  induction ids generalizing j with
  | nil => rfl
  | cons b rest ih =>
    simp only [JobV3_1.allocBssCentral] at ok ⊢
    by_cases zero : b = 0
    · rw [if_pos zero] at ok ⊢
      by_cases r : (j.reuseViews base j.mem 0 0 j.graph.bss0.reuseSections).2.2 = 0
      · rw [if_pos r] at ok ⊢
        rw [ih _ ok, List.length_append, List.length_singleton, List.length_cons]
        omega
      · rw [if_neg r] at ok
        exact absurd ok r
    · rw [if_neg zero] at ok ⊢
      rw [ih _ ok, List.length_append, List.length_singleton, List.length_cons]
      omega

theorem JobV3_1.allocTopPriv_frame (j : JobV3_1) :
    j.allocTopPriv.1.bssBufferVec = j.bssBufferVec ∧ j.allocTopPriv.1.graph = j.graph := by
  unfold JobV3_1.allocTopPriv
  dsimp only
  split
  · exact ⟨rfl, rfl⟩
  · split <;> exact ⟨rfl, rfl⟩

theorem JobV3_1.allocTopReuse_frame (j : JobV3_1) :
    j.allocTopReuse.1.bssBufferVec = j.bssBufferVec ∧ j.allocTopReuse.1.graph = j.graph := by
  unfold JobV3_1.allocTopReuse
  split <;> exact ⟨rfl, rfl⟩

theorem JobV3_1.allocCentralRest_bssBufferVec (j : JobV3_1) (ok : j.allocCentralRest.2 = 0) :
    j.allocCentralRest.1.bssBufferVec.length = j.bssBufferVec.length + j.graph.bss.length := by
  unfold JobV3_1.allocCentralRest at ok ⊢
  dsimp only at ok ⊢
  by_cases bss :
    (j.allocBssCentral (BufferDesc.baseId j.topReuseBuf) (List.range j.graph.bss.length)).2 = 0
  · rw [if_neg (not_not.mpr bss)] at ok ⊢
    split at ok
    · simp at ok
    rw [if_neg ‹_›, JobV3_1.allocPrintf_bssBufferVec, JobV3_1.allocBssCentral_length _ _ _ bss,
      List.length_range]
  · rw [if_pos bss] at ok
    exact absurd ok bss

/-- A successful centralized path pushes one `BSSBuffer` per BSS. -/
theorem JobV3_1.allocSubgraphBuffersOptimized_bssBufferVec (j : JobV3_1) {k : JobV3_1}
    (ok : j.allocSubgraphBuffersOptimized = .ok (k, 0)) :
    k.bssBufferVec.length = j.bssBufferVec.length + j.graph.bss.length := by
  obtain ⟨privV, privG⟩ := j.allocTopPriv_frame
  obtain ⟨reuseV, reuseG⟩ := j.allocTopPriv.1.allocTopReuse_frame
  unfold JobV3_1.allocSubgraphBuffersOptimized at ok
  split_ifs at ok
  · cases ok
  · cases ok
  · cases ok
  obtain ⟨v, views, rest⟩ := JobV3_1.allocViews_ok.mp ok
  obtain ⟨added, rfl, -⟩ := JobV3_1.viewSgPrivate_ok views
  have length := JobV3_1.allocCentralRest_bssBufferVec _ (by rw [rest])
  rw [rest] at length
  rw [length]
  simp only [reuseV, reuseG, privV, privG]

theorem scatter_path_drops_bss_buffers (j : JobV3_1) (two : 2 ≤ j.sgCnt)
    (scatter : j.allocSubgraphBuffers.2 = .success) {k : JobV3_1}
    (central : j.allocSubgraphBuffersOptimized = .ok (k, 0)) :
    j.allocSubgraphBuffers.1.bssBufferVec = j.bssBufferVec ∧
      k.bssBufferVec.length = j.bssBufferVec.length + j.graph.bss.length :=
  ⟨j.allocSubgraphBuffers_bssBufferVec two scatter,
    j.allocSubgraphBuffersOptimized_bssBufferVec central⟩

/-- Two subgraphs, each with one private section, and one BSS with one reuse section. -/
def twoSubgraphGraph : Graph where
  subgraphs := List.replicate 2 ⟨0, [], [⟨4096⟩], 64, 0⟩
  fakeSubgraph := false
  bss := [⟨[⟨4096⟩], 1024, default, []⟩]
  rodataSize := 256
  descSize := 0
  globalParamSize := 0
  dynamicShape := false
  gmReuse := []

/-- A job of `twoSubgraphGraph` as `init` hands it to the allocation paths. -/
def twoSubgraphJob : JobV3_1 :=
  { JobV3_1.create twoSubgraphGraph true [] false [] .fresh (.once 0) with sgCnt := 2, taskPerSg := 4 }

theorem scatter_path_drops_bss_buffers_two_subgraphs :
    2 ≤ twoSubgraphJob.sgCnt ∧ twoSubgraphJob.allocSubgraphBuffers.2 = .success ∧
      ∃ k, twoSubgraphJob.allocSubgraphBuffersOptimized = .ok (k, 0) ∧
        twoSubgraphJob.allocSubgraphBuffers.1.bssBufferVec = [] ∧ k.bssBufferVec.length = 1 :=
  have ok := scatter_path_drops_bss_buffers twoSubgraphJob (by decide) (by decide) rfl
  ⟨by decide, by decide, _, rfl, ok.1, ok.2⟩

/-- When `tot_priv` cannot be had, `init` takes the scatter path and then reads
`m_bss_buffer_vec[0]` of an empty vector. -/
example : (JobV3_1.create twoSubgraphGraph true [] false [] (.withOutcomes [true, true, false])
    (.once 0)).init = .error (.bssBufferVec 0) := by decide

/-! ## A null `tot_priv` -/

/-- When `max_private_size` wraps to 0 while a subgraph has a non-empty private section,
`tot_priv` is not allocated, `tot_reuse` is, and the first such subgraph's view reads the
null `m_top_priv_buf`. -/
theorem JobV3_1.wrapped_private_size_faults (j : JobV3_1) (fm : j.fmMemRegionDefault = true)
    (unset : j.topPrivBuf = none)
    (wrapped : maxPrivateSize32 0 0 ((List.range j.sgCnt).map j.subgraph) = 0)
    (reuse : j.allocTopReuse.2 = true) {i : Nat} (lt : i < j.sgCnt)
    (nonEmpty : ∃ sec ∈ (j.subgraph i).privateBuffers, sec.size ≠ 0)
    (before : ∀ p < i, ∀ sec ∈ (j.subgraph p).privateBuffers, sec.size = 0) :
    j.allocSubgraphBuffersOptimized = .error (.nullTopPrivBuf i) := by
  have priv : j.allocTopPriv = (j, true) := by
    unfold JobV3_1.allocTopPriv
    dsimp only
    rw [if_pos wrapped]
  have frame : j.allocTopReuse.1.topPrivBuf = j.topPrivBuf ∧ j.allocTopReuse.1.sgCnt = j.sgCnt ∧
      j.allocTopReuse.1.graph = j.graph := by
    unfold JobV3_1.allocTopReuse
    split <;> exact ⟨rfl, rfl, rfl⟩
  have range : List.range j.sgCnt = List.range' 0 i ++ i :: List.range' (i + 1) (j.sgCnt - (i + 1)) := by
    have joined := List.range'_append 0 i (j.sgCnt - (i + 1) + 1) 1
    rw [Nat.one_mul, Nat.zero_add] at joined
    rw [List.range_eq_range', ← List.range'_succ, joined]
    congr 1
    omega
  unfold JobV3_1.allocSubgraphBuffersOptimized JobV3_1.allocViews
  simp only [priv, fm, reuse, Bool.not_true, Bool.false_eq_true, if_false, frame, unset, range]
  rw [JobV3_1.viewSgPrivate_null _ _ _ (fun p hp => by
      simpa [JobV3_1.subgraph, frame.2.2] using
        before p (by have := (List.mem_range'_1.mp hp).2; omega))
    (by simpa [JobV3_1.subgraph, frame.2.2] using nonEmpty)]
  rfl

/-- One subgraph whose two private sections of `2^31` bytes add up to `2^32`, which
`max_private_size` holds as 0. -/
def nullPrivGraph : Graph := { wrapGraph with subgraphs := [⟨0, [], [⟨2 ^ 31⟩, ⟨2 ^ 31⟩], 0, 0⟩] }

/-- A job of `nullPrivGraph` with its subgraph counted, as `init` hands it to step 4. -/
def nullPrivJob : JobV3_1 :=
  { JobV3_1.create nullPrivGraph true [] false [] .fresh (.once 0) with sgCnt := 1, taskPerSg := 4 }

/-- On `nullPrivJob` step 4 faults at subgraph 0, and so does `init`. -/
theorem wrapped_private_size_faults_init :
    nullPrivJob.fmMemRegionDefault = true ∧ nullPrivJob.topPrivBuf = none ∧
      maxPrivateSize32 0 0 ((List.range nullPrivJob.sgCnt).map nullPrivJob.subgraph) = 0 ∧
      nullPrivJob.allocTopReuse.2 = true ∧ 0 < nullPrivJob.sgCnt ∧
      (∃ sec ∈ (nullPrivJob.subgraph 0).privateBuffers, sec.size ≠ 0) ∧
      nullPrivJob.allocSubgraphBuffersOptimized = .error (.nullTopPrivBuf 0) ∧
      (JobV3_1.create nullPrivGraph true [] false [] .fresh (.once 0)).init =
        .error (.nullTopPrivBuf 0) :=
  ⟨rfl, rfl, by decide, rfl, by decide, ⟨_, .head _, by decide⟩,
    JobV3_1.wrapped_private_size_faults nullPrivJob rfl rfl (by decide) rfl (by decide)
      ⟨_, .head _, by decide⟩ fun p lt => absurd lt (Nat.not_lt_zero p), by decide⟩

/-! ## Reuse indices past an empty section -/

/-- Three reuse sections for BSS 0: an empty one, one holding an input tensor, one
holding an output tensor. -/
def emptySectionLoads : List ReuseSectionLoad :=
  [⟨0, []⟩, ⟨4096, [⟨.input, 1⟩]⟩, ⟨4096, [⟨.output, 1⟩]⟩]

/-- One subgraph and one BSS, whose reuse sections the parser reads from
`emptySectionLoads`. -/
def emptySectionGraph : Graph :=
  (parseReuseSections 0
    ({ subgraphs := [⟨0, [], [⟨4096⟩], 64, 0⟩], fakeSubgraph := false,
       bss := [⟨[], 1024, default, []⟩], rodataSize := 256, descSize := 0, globalParamSize := 0,
       dynamicShape := false, gmReuse := [] }, 0)
    emptySectionLoads).1

/-- The input tensor records section 1 and the output tensor section 2, but `reuses`
holds only the buffers of sections 1 and 2, at positions 0 and 1. On the centralized
path the output's index is out of range; on the scatter path (a non-default region)
specifying the input gives back and replaces the output's buffer. -/
theorem empty_reuse_section_shifts_buffers :
    emptySectionGraph.bss0.reuseSections = [⟨0⟩, ⟨4096⟩, ⟨4096⟩] ∧
    emptySectionGraph.bss0.io.inputs = [⟨1⟩] ∧ emptySectionGraph.bss0.io.outputs = [⟨2⟩] ∧
    (∃ j, (JobV3_1.create emptySectionGraph true [] false [] .fresh (.once 0)).init = .ok (j, .success) ∧
      j.bssBufferVec.map BssBuffer.reuses = [[.view 3 0 4096, .view 3 4096 4096]] ∧
      j.specifyIoBuffer ⟨.output, 0, .inOneProcess, 0x100000, none, 0⟩ .success = .error (.reuses 2)) ∧
    ∃ j, (JobV3_1.create emptySectionGraph false [] false [] .fresh (.once 0)).init = .ok (j, .success) ∧
      j.bssBufferVec.map BssBuffer.reuses = [[.owned 3 4096, .owned 4 4096]] ∧
      ∃ j', j.specifyIoBuffer ⟨.input, 0, .inOneProcess, 0x100000, none, 0⟩ .success = .ok (j', .success) ∧
        j'.bssBufferVec.map BssBuffer.reuses = [[.owned 3 4096, .external 0x100000 4096]] ∧
        j'.mem.live = j.mem.live.erase 4 :=
  ⟨by decide, by decide, by decide, ⟨_, rfl, by decide, by decide⟩,
    ⟨_, rfl, by decide, ⟨_, rfl, by decide, by decide⟩⟩⟩

end AipuUmd
