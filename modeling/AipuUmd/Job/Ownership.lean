import AipuUmd.Job.Sharing
import AipuUmd.Job.Carving
import Mathlib.Data.Multiset.Basic
import Mathlib.Algebra.Order.BigOperators.Group.List

/-!
# What a job holds, and that the memory manager agrees

`init` takes memory for a job and `destroy` gives it back. This module counts what the
job holds in between. `JobV3_1.holdings` lists every buffer `free_job_buffers` goes
through: the job-wide buffers and top buffers that are set, the private buffers of
every subgraph, the reuse buffers of every BSS, and the tasks of the subgraphs in
`m_sgt_allocated`. `allocIds` counts the allocations among them; views and
caller-supplied buffers are not allocations.

`JobV3_1.Accounted j before misuse` says that the memory manager's live allocations
are those live before the job together with the allocations the job holds, each once,
and that its misuse log is `misuse`. `MemMgr.Gains m m' bs` says the same of one step:
`m'` is `m` with the allocations among `bs` added.

* `JobV3_1.allocSubgraphs_paths`: step 4 on success, on the scatter path (including the
  fall-back from the centralized path, where `opt_alloc_fail` gives `tot_priv` back) and
  on the centralized path.
* `JobV3_1.initTasks_accounted`: the task loop, which counts taken-over tasks once.
* `JobV3_1.Buffered`: what the allocation steps leave in the pointers and buffer lists;
  each step keeps it (`allocModelParam_loads`, `allocJobWide_loads`,
  `allocSubgraphs_loads`, `Buffered.taskFrame`).
* `JobV3_1.init_loaded`, `init_accounts`: a successful `init` leaves the job
  `Loaded`, and the memory manager holds exactly what it held before and the job's
  allocations.
-/

namespace AipuUmd

/-! ## Counting allocations -/

/-- The allocation a buffer is. A view of an allocation or a buffer the caller supplied
is none. -/
def BufferDesc.allocId : BufferDesc → Option Nat
  | .owned id _ => some id
  | _ => none

/-- A buffer that is an allocation of its own. -/
def BufferDesc.Owned (b : BufferDesc) : Prop := ∃ id size, b = .owned id size

/-- The allocations among `bs`, one for each owned buffer. -/
def allocIds (bs : List BufferDesc) : Multiset Nat := (bs.filterMap BufferDesc.allocId : List Nat)

@[simp] theorem allocIds_nil : allocIds [] = 0 := rfl

@[simp] theorem allocIds_append (xs ys : List BufferDesc) :
    allocIds (xs ++ ys) = allocIds xs + allocIds ys := by
  simp [allocIds, List.filterMap_append]

@[simp] theorem allocIds_owned (id size : Nat) : allocIds [.owned id size] = {id} := rfl

@[simp] theorem allocIds_view (base offset size : Nat) : allocIds [.view base offset size] = 0 := rfl

theorem allocIds_cons (b : BufferDesc) (bs : List BufferDesc) :
    allocIds (b :: bs) = allocIds [b] + allocIds bs := allocIds_append [b] bs

/-- A list without owned buffers holds no allocation. -/
theorem allocIds_eq_zero {bs : List BufferDesc} (views : ∀ b ∈ bs, ¬b.Owned) : allocIds bs = 0 := by
  induction bs with
  | nil => rfl
  | cons b bs ih =>
    rw [allocIds_cons, ih fun c hc => views c (.tail _ hc), add_zero]
    cases b with
    | owned id size => exact absurd ⟨id, size, rfl⟩ (views _ (.head _))
    | view => rfl
    | external => rfl

/-! ## The memory manager -/

/-- An allocation adds its id to the live allocations; a refused one adds nothing. -/
theorem MemMgr.malloc_live (m : MemMgr) (size : Nat) :
    ((m.malloc size).1.live : Multiset Nat) = m.live + allocIds (m.malloc size).2.toList ∧
      (m.malloc size).1.misuse = m.misuse := by
  rcases m.malloc_cases size with h | h <;> rw [h]
  · simp
  · exact ⟨(Multiset.coe_add _ _).symm, rfl⟩

/-- An allocation into an unset pointer is the allocation itself. -/
theorem MemMgr.mallocInto_unset (m : MemMgr) (size : Nat) :
    (m.mallocInto size none).1 = (m.malloc size).1 ∧
      (m.mallocInto size none).2.1 = (m.malloc size).2 := by
  unfold MemMgr.mallocInto
  rcases m.malloc size with ⟨m', _ | b⟩ <;> exact ⟨rfl, rfl⟩

/-- Releasing a live allocation takes its id out; nothing is logged as misuse. -/
theorem MemMgr.free_live {m : MemMgr} {X : Multiset Nat} {b : Option BufferDesc}
    (owned : ∀ d ∈ b, d.Owned) (live : (m.live : Multiset Nat) = X + allocIds b.toList) :
    ((m.free b).live : Multiset Nat) = X ∧ (m.free b).misuse = m.misuse := by
  rcases b with _ | d
  · simpa [MemMgr.free] using live
  · obtain ⟨id, size, rfl⟩ := owned _ rfl
    simp only [Option.toList_some, allocIds_owned] at live
    have isLive : id ∈ m.live := by
      rw [← Multiset.mem_coe, live]
      exact Multiset.mem_add.mpr (.inr (Multiset.mem_singleton_self id))
    simp only [MemMgr.free, if_pos isLive, and_true]
    rw [← Multiset.coe_erase, live, Multiset.erase_add_right_pos _ (Multiset.mem_singleton_self id),
      Multiset.erase_singleton, add_zero]

/-- Owned buffers whose ids are live, released one by one. -/
theorem MemMgr.foldl_free_live {bs : List BufferDesc} (owned : ∀ b ∈ bs, b.Owned) {m : MemMgr}
    {X : Multiset Nat} (live : (m.live : Multiset Nat) = X + allocIds bs) :
    ((bs.foldl (fun m b => m.free (some b)) m).live : Multiset Nat) = X ∧
      (bs.foldl (fun m b => m.free (some b)) m).misuse = m.misuse := by
  induction bs generalizing m with
  | nil => simpa using live
  | cons b bs ih =>
    obtain ⟨first, same⟩ := MemMgr.free_live (m := m) (X := X + allocIds bs) (b := some b)
      (fun d hd => owned d (by cases hd; exact .head _))
      (by rw [live, allocIds_cons, Option.toList_some]; ac_rfl)
    obtain ⟨rest, same'⟩ := ih (fun c hc => owned c (.tail _ hc)) first
    exact ⟨rest, same'.trans same⟩

/-- `m'` is `m` with the allocations among `bs` added to the live ones, and no misuse. -/
structure MemMgr.Gains (m m' : MemMgr) (bs : List BufferDesc) : Prop where
  live : (m'.live : Multiset Nat) = m.live + allocIds bs
  misuse : m'.misuse = m.misuse

theorem MemMgr.Gains.refl (m : MemMgr) : m.Gains m [] := ⟨by simp, rfl⟩

theorem MemMgr.Gains.trans {m₁ m₂ m₃ : MemMgr} {xs ys : List BufferDesc} (first : m₁.Gains m₂ xs)
    (second : m₂.Gains m₃ ys) : m₁.Gains m₃ (xs ++ ys) :=
  ⟨by rw [second.live, first.live, allocIds_append, add_assoc], second.misuse.trans first.misuse⟩

/-- Gaining a buffer and then releasing it gains nothing. -/
theorem MemMgr.Gains.free {m m' : MemMgr} {b : Option BufferDesc} (gains : m.Gains m' b.toList)
    (owned : ∀ d ∈ b, d.Owned) : m.Gains (m'.free b) [] := by
  obtain ⟨live, misuse⟩ := MemMgr.free_live owned gains.live
  exact ⟨by rw [live, allocIds_nil, add_zero], misuse.trans gains.misuse⟩

theorem MemMgr.gains_malloc (m : MemMgr) (size : Nat) :
    m.Gains (m.malloc size).1 (m.malloc size).2.toList :=
  ⟨(m.malloc_live size).1, (m.malloc_live size).2⟩

/-- An allocation into an unset pointer is the allocation itself. -/
theorem MemMgr.mallocInto_none (m : MemMgr) (size : Nat) :
    m.mallocInto size none = ((m.malloc size).1, (m.malloc size).2,
      if (m.malloc size).2.isSome then .success else .bufAllocFail) := by
  unfold MemMgr.mallocInto
  rcases m.malloc size with ⟨m', _ | b⟩ <;> rfl

/-- An allocation made only when `c` holds, as the job makes its optional buffers. -/
def MemMgr.mallocIf (m : MemMgr) (c : Prop) [Decidable c] (size : Nat) : MemMgr × Option BufferDesc :=
  if c then m.malloc size else (m, none)

theorem MemMgr.gains_mallocIf (m : MemMgr) (c : Prop) [Decidable c] (size : Nat) :
    m.Gains (m.mallocIf c size).1 (m.mallocIf c size).2.toList := by
  unfold MemMgr.mallocIf
  split
  · exact m.gains_malloc size
  · exact .refl m

/-- A pointer `free_job_buffers` releases: unset, or an allocation of positive size. A
buffer of size 0 fails the job's `size != 0` guard and is never freed. -/
def Freeable (buf : Option BufferDesc) : Prop := ∀ b ∈ buf, ∃ id size, b = .owned id size ∧ 0 < size

theorem freeable_none : Freeable none := fun _ h => nomatch h

theorem MemMgr.malloc_some {m : MemMgr} {size : Nat} {b : BufferDesc}
    (h : (m.malloc size).2 = some b) : b = .owned m.nextId size := by
  rcases m.malloc_cases size with e | e <;> rw [e] at h <;> cases h
  rfl

theorem MemMgr.freeable_malloc (m : MemMgr) {size : Nat} (pos : 0 < size) : Freeable (m.malloc size).2 := by
  rcases m.malloc_cases size with e | e <;> rw [e]
  · exact freeable_none
  · rintro b ⟨⟩
    exact ⟨_, _, rfl, pos⟩

/-- What an optional allocation hands out: the next id, when its condition holds. -/
theorem MemMgr.mem_mallocIf {m : MemMgr} {c : Prop} [Decidable c] {size : Nat} {b : BufferDesc}
    (h : b ∈ (m.mallocIf c size).2) : c ∧ b = .owned m.nextId size := by
  unfold MemMgr.mallocIf at h
  split at h
  next hc => exact ⟨hc, MemMgr.malloc_some h⟩
  · cases h

theorem MemMgr.freeable_mallocIf (m : MemMgr) {c : Prop} [Decidable c] {size : Nat}
    (pos : c → 0 < size) : Freeable (m.mallocIf c size).2 := fun _ h =>
  ⟨_, _, (MemMgr.mem_mallocIf h).2, pos (MemMgr.mem_mallocIf h).1⟩

/-! ## What a job holds -/

/-- Every buffer `free_job_buffers` goes through: the job-wide and top buffers that are
set, the private buffers of every subgraph, the reuse buffers of every BSS, and the
tasks of the subgraphs in `m_sgt_allocated`. A subgraph that took tasks over holds
copies of them, counted with the subgraph that allocated them. -/
def JobV3_1.holdings (j : JobV3_1) : List BufferDesc :=
  j.modelGlobalParam.toList ++ j.rodata.toList ++ j.descriptor.toList ++ j.tcbs.toList ++
    j.pprint.toList ++ j.topPrivBuf.toList ++ j.topReuseBuf.toList ++
    j.sgJob.flatMap SubGraphTask.reusePrivBuffers ++ j.bssBufferVec.flatMap BssBuffer.reuses ++
    j.taskPool

/-- The memory manager accounts for the job: its live allocations are `before` and the
allocations the job holds, and its misuse log is `misuse`. -/
structure JobV3_1.Accounted (j : JobV3_1) (before : Multiset Nat) (misuse : List BufferDesc) :
    Prop where
  live : (j.mem.live : Multiset Nat) = before + allocIds j.holdings
  misuse : j.mem.misuse = misuse

section Accounted

variable {j k : JobV3_1} {B : Multiset Nat} {M : List BufferDesc}

/-- A step whose memory gains exactly the allocations the job gains. -/
theorem JobV3_1.Accounted.gain (acc : j.Accounted B M) {bs : List BufferDesc} (gains : j.mem.Gains k.mem bs)
    (held : allocIds k.holdings = allocIds j.holdings + allocIds bs) : k.Accounted B M :=
  ⟨by rw [gains.live, acc.live, held, add_assoc], gains.misuse.trans acc.misuse⟩

end Accounted

/-! ## The job-wide buffers -/

/-- Step 1 of `alloc_load_job_buffers`: the rodata, when the graph has any. -/
def JobV3_1.allocRodata (j : JobV3_1) : JobV3_1 × Status :=
  if j.graph.rodataSize = 0 then (j, .success) else
    let (mem, rodata, st) := j.mem.mallocInto j.graph.rodataSize j.rodata
    ({ j with mem, rodata }, st)

/-- Step 2: the descriptor, when the graph has one. -/
def JobV3_1.allocDescriptor (j : JobV3_1) : JobV3_1 × Status :=
  if j.graph.descSize = 0 then (j, .success) else
    let (mem, descriptor, st) := j.mem.mallocInto j.graph.descSize j.descriptor
    ({ j with mem, descriptor }, st)

/-- Step 3: the TCBs. -/
def JobV3_1.allocTcbs (j : JobV3_1) : JobV3_1 × Status :=
  let (mem, tcbs, st) := j.mem.mallocInto ((1 + j.sgCnt * (j.taskPerSg + 1)) * tcbSize) j.tcbs
  ({ j with mem, tcbs }, st)

theorem JobV3_1.allocJobWide_eq (j : JobV3_1) :
    j.allocJobWide = onSuccess j.allocRodata fun j => onSuccess j.allocDescriptor JobV3_1.allocTcbs :=
  rfl

section JobWide

variable {j : JobV3_1}

/-- Step 0 allocates into the unset model global parameter when the graph is dynamic and
its shapes are set. -/
theorem JobV3_1.allocModelParam_fst (unset : j.modelGlobalParam = none) :
    let r := j.mem.mallocIf (j.graph.dynamicShape ∧ j.dynShapeSet ∧ 0 < j.configShape.length)
      j.graph.globalParamSize
    j.allocModelParam.1 = { j with mem := r.1, modelGlobalParam := r.2 } := by
  intro r
  unfold JobV3_1.allocModelParam
  simp only [r, MemMgr.mallocIf]
  split
  · rw [unset, MemMgr.mallocInto_none]
    split_ifs <;> rfl
  · rw [← unset]

theorem JobV3_1.allocRodata_fst (unset : j.rodata = none) :
    let r := j.mem.mallocIf (j.graph.rodataSize ≠ 0) j.graph.rodataSize
    j.allocRodata.1 = { j with mem := r.1, rodata := r.2 } := by
  intro r
  unfold JobV3_1.allocRodata
  simp only [r, MemMgr.mallocIf, ne_eq, ite_not]
  split
  · rw [← unset]
  · rw [unset, MemMgr.mallocInto_none]

theorem JobV3_1.allocDescriptor_fst (unset : j.descriptor = none) :
    let r := j.mem.mallocIf (j.graph.descSize ≠ 0) j.graph.descSize
    j.allocDescriptor.1 = { j with mem := r.1, descriptor := r.2 } := by
  intro r
  unfold JobV3_1.allocDescriptor
  simp only [r, MemMgr.mallocIf, ne_eq, ite_not]
  split
  · rw [← unset]
  · rw [unset, MemMgr.mallocInto_none]

theorem JobV3_1.allocTcbs_fst (unset : j.tcbs = none) :
    let r := j.mem.malloc ((1 + j.sgCnt * (j.taskPerSg + 1)) * tcbSize)
    j.allocTcbs.1 = { j with mem := r.1, tcbs := r.2 } := by
  intro r
  unfold JobV3_1.allocTcbs
  rw [unset, MemMgr.mallocInto_none]

/-- Steps 1 to 3 on success, from unset pointers: each buffer the graph asks for is
allocated, and the memory gains exactly those. -/
theorem JobV3_1.allocJobWide_shape (rodata : j.rodata = none) (descriptor : j.descriptor = none)
    (tcbs : j.tcbs = none) (ok : j.allocJobWide.2 = .success) :
    ∃ mem r d t, j.allocJobWide.1 = { j with mem, rodata := r, descriptor := d, tcbs := t } ∧
      j.mem.Gains mem (r.toList ++ d.toList ++ t.toList) ∧ Freeable r ∧ Freeable d ∧ Freeable t := by
  rw [JobV3_1.allocJobWide_eq] at ok ⊢
  obtain ⟨-, eq⟩ := onSuccess_success ok
  rw [eq] at ok ⊢
  rw [(onSuccess_success ok).2]
  have r₁ := j.allocRodata_fst rodata
  have r₂ := j.allocRodata.1.allocDescriptor_fst (by rw [r₁]; exact descriptor)
  have r₃ := j.allocRodata.1.allocDescriptor.1.allocTcbs_fst (by rw [r₂, r₁]; exact tcbs)
  have g₁ := j.mem.gains_mallocIf (j.graph.rodataSize ≠ 0) j.graph.rodataSize
  have g₂ := j.allocRodata.1.mem.gains_mallocIf (j.allocRodata.1.graph.descSize ≠ 0)
    j.allocRodata.1.graph.descSize
  have g₃ := j.allocRodata.1.allocDescriptor.1.mem.gains_malloc
    ((1 + j.allocRodata.1.allocDescriptor.1.sgCnt * (j.allocRodata.1.allocDescriptor.1.taskPerSg + 1)) * tcbSize)
  rw [r₂, r₁] at g₃
  rw [r₁] at g₂
  rw [r₃, r₂, r₁]
  exact ⟨_, _, _, _, rfl, (g₁.trans g₂).trans g₃, j.mem.freeable_mallocIf Nat.pos_of_ne_zero,
    MemMgr.freeable_mallocIf _ Nat.pos_of_ne_zero, MemMgr.freeable_malloc _ (by unfold tcbSize; omega)⟩

end JobWide

/-! ## The subgraph buffers -/

/-- The section loop gains exactly the buffers it hands out, when it succeeds. -/
theorem allocSections_gains (mem : MemMgr) (secs : List SectionDesc)
    (ok : (allocSections mem secs).2.2 = .success) :
    mem.Gains (allocSections mem secs).1 (allocSections mem secs).2.1 := by
  induction secs generalizing mem with
  | nil => exact .refl mem
  | cons sec rest ih =>
    simp only [allocSections] at ok ⊢
    by_cases empty : sec.size = 0
    · simp only [empty, if_true] at ok ⊢
      exact ih mem ok
    · simp only [empty, if_false] at ok ⊢
      rcases mem.malloc_cases sec.size with e | e <;> rw [e] at ok ⊢
      · cases ok
      · have first := mem.gains_malloc sec.size
        rw [e] at first
        exact first.trans (ih _ ok)

theorem allocSections_owned (mem : MemMgr) (secs : List SectionDesc) :
    ∀ b ∈ (allocSections mem secs).2.1, b.Owned := fun b hb => by
  obtain ⟨id, size, rfl, -⟩ := (allocSections_fresh mem secs).2.owned b hb
  exact ⟨id, size, rfl⟩

section Subgraphs

variable {j : JobV3_1}

theorem JobV3_1.allocTopPriv_fst (unset : j.topPrivBuf = none) :
    let size := maxPrivateSize32 0 0 ((List.range j.sgCnt).map j.subgraph)
    let r := j.mem.mallocIf (size ≠ 0) size
    j.allocTopPriv.1 = { j with mem := r.1, topPrivBuf := r.2 } ∧ (j.allocTopPriv.2 = false → r.2 = none) := by
  intro size r
  unfold JobV3_1.allocTopPriv
  simp only [r, MemMgr.mallocIf, ne_eq, ite_not]
  split
  · exact ⟨by rw [← unset], nofun⟩
  · rcases j.mem.malloc_cases size with e | e <;> simp [e, unset]

theorem JobV3_1.allocTopReuse_fst (unset : j.topReuseBuf = none) :
    let r := j.mem.malloc (j.reuseTotalSize32 0 0 j.graph.bss0.reuseSections)
    j.allocTopReuse.1 = { j with mem := r.1, topReuseBuf := r.2 } ∧
      (j.allocTopReuse.2 = false → r.2 = none) := by
  intro r
  unfold JobV3_1.allocTopReuse
  rcases j.mem.malloc_cases (j.reuseTotalSize32 0 0 j.graph.bss0.reuseSections) with e | e <;>
    simp [r, e, unset]

theorem JobV3_1.allocPrintf_fst (unset : j.pprint = none) :
    let r := j.mem.mallocIf (0 < j.sgCnt ∧ 0 < (j.subgraph 0).printfifoSize) (j.sgCnt * aipuPageSize)
    j.allocPrintf.1 = { j with mem := r.1, pprint := r.2 } := by
  intro r
  unfold JobV3_1.allocPrintf
  simp only [r, MemMgr.mallocIf]
  split
  · rcases j.mem.malloc_cases (j.sgCnt * aipuPageSize) with e | e <;> simp [e, unset]
  · rw [← unset]

/-- `opt_alloc_fail` with `tot_reuse` unset frees `tot_priv`. -/
theorem JobV3_1.optAllocFail_eq (priv : Freeable j.topPrivBuf) (reuse : j.topReuseBuf = none) :
    j.optAllocFail = { j with mem := j.mem.free j.topPrivBuf, topPrivBuf := none } := by
  unfold JobV3_1.optAllocFail
  cases h : j.topPrivBuf with
  | none =>
    cases j
    subst h reuse
    rfl
  | some b =>
    obtain ⟨id, size, rfl, pos⟩ := priv _ h
    simp [BufferDesc.nonEmpty, reuse, pos, BufferDesc.size]

/-- When the centralized path falls back to the scatter path, only the memory has
changed, and it holds the same live allocations: a `tot_priv` it made is given back. -/
theorem JobV3_1.allocSubgraphBuffersOptimized_fallback (priv : j.topPrivBuf = none)
    (reuse : j.topReuseBuf = none) {k : JobV3_1}
    (fallback : j.allocSubgraphBuffersOptimized = .ok (k, -1)) :
    ∃ mem, k = { j with mem } ∧ j.mem.Gains mem [] := by
  obtain ⟨topPriv, refused⟩ := j.allocTopPriv_fst priv
  unfold JobV3_1.allocSubgraphBuffersOptimized at fallback
  set t := j.allocTopPriv.1
  have tReuse : t.topReuseBuf = none := by rw [topPriv]; exact reuse
  by_cases off : (!j.fmMemRegionDefault) = true
  · rw [if_pos off] at fallback
    cases fallback
    exact ⟨j.mem, by rw [j.optAllocFail_eq (priv ▸ freeable_none) reuse, priv]; rfl, .refl _⟩
  rw [if_neg off] at fallback
  by_cases failed : (!j.allocTopPriv.2) = true
  · rw [if_pos failed] at fallback
    cases fallback
    have tPriv : t.topPrivBuf = none := by rw [topPriv]; exact refused (by simpa using failed)
    have gains := j.mem.gains_mallocIf (maxPrivateSize32 0 0 ((List.range j.sgCnt).map j.subgraph) ≠ 0)
      (maxPrivateSize32 0 0 ((List.range j.sgCnt).map j.subgraph))
    rw [refused (by simpa using failed)] at gains
    rw [t.optAllocFail_eq (tPriv ▸ freeable_none) tReuse, tPriv, topPriv]
    exact ⟨_, by rw [priv]; rfl, gains⟩
  rw [if_neg failed] at fallback
  by_cases failed' : (!t.allocTopReuse.2) = true
  · rw [if_pos failed'] at fallback
    cases fallback
    obtain ⟨topReuse, refused'⟩ := t.allocTopReuse_fst tReuse
    have none' := refused' (by simpa using failed')
    have uPriv : Freeable t.allocTopReuse.1.topPrivBuf := by
      rw [topReuse, topPriv]; exact j.mem.freeable_mallocIf fun h => Nat.pos_of_ne_zero h
    have gains : j.mem.Gains t.allocTopReuse.1.mem t.allocTopReuse.1.topPrivBuf.toList := by
      have g := t.mem.gains_malloc (t.reuseTotalSize32 0 0 t.graph.bss0.reuseSections)
      rw [none'] at g
      have g₀ : j.mem.Gains t.mem t.topPrivBuf.toList := by rw [topPriv]; exact j.mem.gains_mallocIf _ _
      rw [topReuse]
      simpa using g₀.trans g
    rw [JobV3_1.optAllocFail_eq uPriv (by rw [topReuse]; exact none')]
    refine ⟨_, ?_, gains.free fun d hd => (uPriv d hd).imp fun _ ⟨size, eq, _⟩ => ⟨size, eq⟩⟩
    rw [topReuse, none', reuse, priv, topPriv]
  rw [if_neg failed'] at fallback
  obtain ⟨v, -, eq⟩ := JobV3_1.allocViews_ok.mp fallback
  rcases v.allocCentralRest_result with h | h <;> rw [eq] at h <;> simp at h

/-- The subgraph loop of the scatter path pushes one record per subgraph, holding freshly
allocated private buffers and no tasks, when it succeeds. -/
theorem JobV3_1.allocSgPrivate_shape (t : SubGraphTask) (ids : List Nat)
    (ok : (j.allocSgPrivate t ids).2.2 = .success) :
    ∃ mem recs, (j.allocSgPrivate t ids).1 = { j with mem, sgJob := j.sgJob ++ recs } ∧
      j.mem.Gains mem (recs.flatMap SubGraphTask.reusePrivBuffers) ∧
      ∀ r ∈ recs, ∀ b ∈ r.reusePrivBuffers, b.Owned := by
  induction ids generalizing j t with
  | nil => exact ⟨j.mem, [], by simp [JobV3_1.allocSgPrivate], .refl _, by simp⟩
  | cons i rest ih =>
    simp only [JobV3_1.allocSgPrivate] at ok ⊢
    have gains := allocSections_gains j.mem (j.subgraph i).privateBuffers
    have owned := allocSections_owned j.mem (j.subgraph i).privateBuffers
    generalize allocSections j.mem (j.subgraph i).privateBuffers = r at ok gains owned ⊢
    obtain ⟨mem, bufs, st⟩ := r
    by_cases st_ok : st = .success
    · have gains := gains st_ok
      simp only [st_ok, if_true] at ok ⊢
      obtain ⟨mem', recs, eq, gains', owned'⟩ := ih _ ok
      refine ⟨mem', ⟨i, bufs, []⟩ :: recs, by rw [eq, List.append_assoc, List.singleton_append],
        by simpa using gains.trans gains', ?_⟩
      rintro r (_ | ⟨_, hr⟩)
      · exact owned
      · exact owned' r hr
    · simp only [st_ok, if_false] at ok

/-- The BSS loop of the scatter path pushes, when the last subgraph record is subgraph 0's,
one entry per BSS holding freshly allocated reuse buffers, and otherwise none. -/
theorem JobV3_1.allocBssScatter_shape (lastId : Nat) (ids : List Nat)
    (ok : (j.allocBssScatter lastId ids).2 = .success) :
    ∃ mem entries,
      (j.allocBssScatter lastId ids).1 = { j with mem, bssBufferVec := j.bssBufferVec ++ entries } ∧
      j.mem.Gains mem (entries.flatMap BssBuffer.reuses) ∧
      (∀ e ∈ entries, e.dmaBufIdx = [] ∧ ∀ b ∈ e.reuses, b.Owned) ∧
      entries.length = if lastId = 0 then ids.length else 0 := by
  induction ids generalizing j with
  | nil => exact ⟨j.mem, [], by simp [JobV3_1.allocBssScatter], .refl _, by simp, by simp⟩
  | cons b rest ih =>
    simp only [JobV3_1.allocBssScatter] at ok ⊢
    by_cases first : lastId = 0
    · subst first
      rw [if_pos rfl] at ok ⊢
      have gains := allocSections_gains j.mem j.graph.bss0.reuseSections
      have owned := allocSections_owned j.mem j.graph.bss0.reuseSections
      generalize allocSections j.mem j.graph.bss0.reuseSections = r at ok gains owned ⊢
      obtain ⟨mem, bufs, st⟩ := r
      by_cases st_ok : st = .success
      · have gains := gains st_ok
        simp only [st_ok, if_true] at ok ⊢
        obtain ⟨mem', entries, eq, gains', owned', len⟩ := ih ok
        refine ⟨mem', ⟨bufs, true, []⟩ :: entries,
          by rw [eq, List.append_assoc, List.singleton_append]; rfl, by simpa using gains.trans gains', ?_,
          by simpa using len⟩
        rintro e (_ | ⟨_, he⟩)
        · exact ⟨rfl, owned⟩
        · exact owned' e he
      · simp only [st_ok, if_false] at ok
    · rw [if_neg first] at ok ⊢
      obtain ⟨mem', entries, eq, gains', owned', len⟩ := ih ok
      exact ⟨mem', entries, eq, gains', owned', by simpa [first] using len⟩

/-- The private views of one subgraph are views of allocation `base`. -/
theorem privateViews32_views (base offset : Nat) (secs : List SectionDesc) :
    ∀ b ∈ (privateViews32 base offset secs).1, ∃ o s, b = .view base o s := by
  induction secs generalizing offset with
  | nil => simp [privateViews32]
  | cons sec rest ih =>
    simp only [privateViews32]
    split
    · exact ih offset
    · rintro b (_ | ⟨_, hb⟩)
      · exact ⟨_, _, rfl⟩
      · exact ih _ b hb

theorem sgPrivateViews32_views (base offset : Nat) (sgs : List Subgraph) :
    ∀ vs ∈ sgPrivateViews32 base offset sgs, ∀ b ∈ vs, ∃ o s, b = .view base o s := by
  induction sgs generalizing offset with
  | nil => simp [sgPrivateViews32]
  | cons sg rest ih =>
    simp only [sgPrivateViews32]
    rintro vs (_ | ⟨_, hvs⟩)
    · exact privateViews32_views base _ _
    · exact ih _ vs hvs

/-- The subgraph loop of the centralized path, when it does not fault, pushes one record
per subgraph holding views of `tot_priv`, and no view when `tot_priv` is null. -/
theorem JobV3_1.viewSgPrivate_shape {top : Option BufferDesc} {offset : Nat} {ids : List Nat}
    {k : JobV3_1} (ok : j.viewSgPrivate top offset ids = .ok k) :
    ∃ recs, k = { j with sgJob := j.sgJob ++ recs } ∧
      (∀ r ∈ recs, ∀ b ∈ r.reusePrivBuffers, ∃ o s, b = .view (BufferDesc.baseId top) o s) ∧
      (top = none → ∀ r ∈ recs, r.reusePrivBuffers = []) := by
  obtain ⟨recs, eq, -, -, privs, none'⟩ := JobV3_1.viewSgPrivate_ok ok
  refine ⟨recs, eq, fun r hr b hb => ?_, none'⟩
  have mem := List.mem_map_of_mem SubGraphTask.reusePrivBuffers hr
  rw [privs] at mem
  exact sgPrivateViews32_views _ _ _ _ mem b hb

/-- The reuse loop of the centralized path gains exactly its owned buffers, when it
succeeds. -/
theorem JobV3_1.reuseViews_gains (base : Nat) (mem : MemMgr) (k offset : Nat)
    (secs : List SectionDesc) (ok : (j.reuseViews base mem k offset secs).2.2 = 0) :
    mem.Gains (j.reuseViews base mem k offset secs).1 (j.reuseViews base mem k offset secs).2.1 := by
  induction secs generalizing mem k offset with
  | nil => exact .refl mem
  | cons sec rest ih =>
    simp only [JobV3_1.reuseViews] at ok ⊢
    by_cases empty : sec.size = 0
    · rw [if_pos empty] at ok ⊢
      exact ih mem _ _ ok
    rw [if_neg empty] at ok ⊢
    by_cases central : j.reuseKind k = .central
    · rw [if_pos central] at ok ⊢
      have ih' := ih mem (k + 1) ((offset + alignPage sec.size) % 2 ^ 32)
      generalize j.reuseViews base mem (k + 1) ((offset + alignPage sec.size) % 2 ^ 32) rest = r
        at ih' ok ⊢
      obtain ⟨m, bufs, res⟩ := r
      have g := ih' ok
      exact ⟨by rw [allocIds_cons, allocIds_view, zero_add]; exact g.live, g.misuse⟩
    rw [if_neg central] at ok ⊢
    have first := mem.gains_malloc sec.size
    generalize mem.malloc sec.size = r at ok first ⊢
    obtain ⟨m₁, _ | buf⟩ := r <;> dsimp only at ok first ⊢
    · split at ok <;> cases ok
    · have ih' := ih m₁ (k + 1) offset
      generalize j.reuseViews base m₁ (k + 1) offset rest = r at ih' ok ⊢
      obtain ⟨m, bufs, res⟩ := r
      exact first.trans (ih' ok)

/-- With every reuse section central, the reuse loop makes views only. -/
theorem JobV3_1.reuseViews_central (base : Nat) (mem : MemMgr) (k offset : Nat)
    (secs : List SectionDesc) (central : ∀ k, j.reuseKind k = .central) :
    (j.reuseViews base mem k offset secs).1 = mem ∧ (j.reuseViews base mem k offset secs).2.2 = 0 ∧
      ∀ b ∈ (j.reuseViews base mem k offset secs).2.1, ¬b.Owned := by
  induction secs generalizing k offset with
  | nil => simp [JobV3_1.reuseViews]
  | cons sec rest ih =>
    simp only [JobV3_1.reuseViews, central, if_true]
    split
    · exact ih _ _
    · have ih' := ih (k + 1) ((offset + alignPage sec.size) % 2 ^ 32)
      generalize j.reuseViews base mem (k + 1) ((offset + alignPage sec.size) % 2 ^ 32) rest = r
        at ih' ⊢
      obtain ⟨m, bufs, res⟩ := r
      obtain ⟨same, zero, views⟩ := ih'
      refine ⟨same, zero, ?_⟩
      rintro b (_ | ⟨_, hb⟩)
      · rintro ⟨_, _, ⟨⟩⟩
      · exact views b hb

/-- The BSS loop of the centralized path over BSS ids other than 0 pushes empty entries. -/
theorem JobV3_1.allocBssCentral_nonzero (base : Nat) (ids : List Nat) (nonzero : ∀ b ∈ ids, b ≠ 0) :
    j.allocBssCentral base ids =
      ({ j with bssBufferVec := j.bssBufferVec ++ ids.map fun _ => BssBuffer.empty }, 0) := by
  induction ids generalizing j with
  | nil => simp [JobV3_1.allocBssCentral]
  | cons b rest ih =>
    simp only [JobV3_1.allocBssCentral, if_neg (nonzero b (.head _))]
    rw [ih fun c hc => nonzero c (.tail _ hc)]
    simp [List.append_assoc]

/-- The BSS loop of the centralized path: BSS 0 gets the reuse buffers, the others empty
entries. -/
theorem JobV3_1.allocBssCentral_range (base n : Nat)
    (ok : (j.allocBssCentral base (List.range n)).2 = 0) :
    (n ≠ 0 → (j.reuseViews base j.mem 0 0 j.graph.bss0.reuseSections).2.2 = 0) ∧
      (j.allocBssCentral base (List.range n)).1 =
        { j with mem := if n = 0 then j.mem else (j.reuseViews base j.mem 0 0 j.graph.bss0.reuseSections).1,
                 bssBufferVec := j.bssBufferVec ++ (List.range n).map fun b =>
                   if b = 0 then ⟨(j.reuseViews base j.mem 0 0 j.graph.bss0.reuseSections).2.1, true, []⟩
                   else BssBuffer.empty } := by
  cases n with
  | zero => simp [JobV3_1.allocBssCentral]
  | succ n =>
    have nonzero : ∀ b ∈ List.range' 1 n, b ≠ 0 := fun b hb => by
      have := (List.mem_range'_1.mp hb).1; omega
    rw [List.range_eq_range', List.range'_succ] at ok ⊢
    rcases h : j.reuseViews base j.mem 0 0 j.graph.bss0.reuseSections with ⟨m, bufs, res⟩
    simp only [JobV3_1.allocBssCentral, h, ↓reduceIte, Nat.zero_add] at ok ⊢
    by_cases zero : res = 0
    · subst zero
      simp only [↓reduceIte, JobV3_1.allocBssCentral_nonzero base _ nonzero] at ok ⊢
      refine ⟨fun _ => trivial, ?_⟩
      simp only [List.map_cons, ↓reduceIte, List.append_assoc, List.singleton_append,
        Nat.succ_ne_zero, decide_True]
      rw [List.map_congr_left fun b hb => if_neg (nonzero b hb)]
    · simp [zero] at ok

/-- The size of `tot_reuse` reads only the graph and `m_fm_idxes`. -/
theorem JobV3_1.reuseTotalSize32_congr {k : JobV3_1} (graph : j.graph = k.graph)
    (fm : j.fmIdxes = k.fmIdxes) (n total : Nat) (secs : List SectionDesc) :
    j.reuseTotalSize32 n total secs = k.reuseTotalSize32 n total secs := by
  have kind : ∀ n, j.reuseKind n = k.reuseKind n := fun n => by
    simp only [JobV3_1.reuseKind, graph, fm]
  induction secs generalizing n total with
  | nil => rfl
  | cons sec rest ih => simp only [JobV3_1.reuseTotalSize32, kind, ih]

/-- The reuse buffers of the BSS entries the centralized path pushes. -/
theorem centralBss_reuses {R : List BufferDesc} {n : Nat} (noR : n = 0 → R = []) :
    ((List.range n).map fun b => if b = 0 then (⟨R, true, []⟩ : BssBuffer) else .empty).flatMap
      BssBuffer.reuses = R := by
  cases n with
  | zero => exact (noR rfl).symm
  | succ n => simp [List.range_succ_eq_map, BssBuffer.empty]

/-- The centralized path after its top buffers, when it succeeds: views of `tot_priv` for
the subgraphs (none when `tot_priv` is null), BSS 0's reuse buffers and empty entries for
the other BSSs, and the printf buffer. The memory gains the reuse buffers it allocated and
the printf buffer. -/
theorem JobV3_1.allocViews_shape (unset : j.pprint = none) {r : JobV3_1 × Int}
    (ok : j.allocViews = .ok r) (zero : r.2 = 0) :
    ∃ mem recs R pprint,
      r.1 =
        { j with mem, sgJob := j.sgJob ++ recs,
                 bssBufferVec := j.bssBufferVec ++ (List.range j.graph.bss.length).map fun b =>
                   if b = 0 then ⟨R, true, []⟩ else BssBuffer.empty,
                 pprint, optimizedReuseAlloc := true } ∧
      j.mem.Gains mem (R ++ pprint.toList) ∧ Freeable pprint ∧
      (∀ t ∈ recs, ∀ b ∈ t.reusePrivBuffers, ∃ o s, b = .view (BufferDesc.baseId j.topPrivBuf) o s) ∧
      (j.topPrivBuf = none → ∀ t ∈ recs, t.reusePrivBuffers = []) ∧
      ((∀ k, j.reuseKind k = .central) → ∀ b ∈ R, ¬b.Owned) ∧ (j.graph.bss.length = 0 → R = []) := by
  obtain ⟨v, views, rfl⟩ := JobV3_1.allocViews_ok.mp ok
  obtain ⟨recs, rfl, shape, none'⟩ := j.viewSgPrivate_shape views
  unfold JobV3_1.allocCentralRest at zero ⊢
  set j₁ : JobV3_1 := { j with sgJob := j.sgJob ++ recs }
  set n := j.graph.bss.length
  by_cases bss : (j₁.allocBssCentral (BufferDesc.baseId j.topReuseBuf) (List.range n)).2 = 0
  · obtain ⟨allZero, bssEq⟩ := j₁.allocBssCentral_range _ n bss
    dsimp only at zero ⊢
    rw [if_neg (not_not.mpr bss)] at zero ⊢
    set j₂ := (j₁.allocBssCentral (BufferDesc.baseId j.topReuseBuf) (List.range n)).1
    have printf := j₂.allocPrintf_fst (by rw [bssEq]; exact unset)
    have pos : Freeable (j₂.mem.mallocIf (0 < j₂.sgCnt ∧ 0 < (j₂.subgraph 0).printfifoSize)
        (j₂.sgCnt * aipuPageSize)).2 :=
      j₂.mem.freeable_mallocIf fun h => Nat.mul_pos h.1 (by decide)
    by_cases printed : j₂.allocPrintf.2 ≠ .success
    · rw [if_pos printed] at zero
      cases zero
    rw [if_neg printed]
    have views := fun (central : ∀ k, j.reuseKind k = .central) =>
      (j₁.reuseViews_central (BufferDesc.baseId j.topReuseBuf) j₁.mem 0 0 j₁.graph.bss0.reuseSections
        central).2.2
    have gains := j₂.mem.gains_mallocIf (0 < j₂.sgCnt ∧ 0 < (j₂.subgraph 0).printfifoSize)
      (j₂.sgCnt * aipuPageSize)
    set r := j₂.mem.mallocIf (0 < j₂.sgCnt ∧ 0 < (j₂.subgraph 0).printfifoSize) (j₂.sgCnt * aipuPageSize)
    by_cases n0 : n = 0
    · have mem₂ : j₂.mem = j.mem := by rw [bssEq, if_pos n0]
      refine ⟨r.1, recs, [], r.2, ?_, by rw [← mem₂]; exact gains, pos, shape, none',
        fun _ _ h => (nomatch h), fun _ => rfl⟩
      rw [printf, bssEq, n0]
      rfl
    · have mem₂ : j₂.mem =
          (j₁.reuseViews (BufferDesc.baseId j.topReuseBuf) j₁.mem 0 0 j₁.graph.bss0.reuseSections).1 := by
        rw [bssEq, if_neg n0]
      refine ⟨r.1, recs, _, r.2, ?_, ?_, pos, shape, none', views, fun h => absurd h n0⟩
      · rw [printf, bssEq, if_neg n0]
      · rw [mem₂] at gains
        exact (j₁.reuseViews_gains _ _ _ _ _ (allZero n0)).trans gains
  · dsimp only at zero
    rw [if_pos bss] at zero
    exact absurd zero bss

theorem JobV3_1.allocTopReuse_snd :
    j.allocTopReuse.2 = (j.mem.malloc (j.reuseTotalSize32 0 0 j.graph.bss0.reuseSections)).2.isSome := by
  unfold JobV3_1.allocTopReuse
  rcases j.mem.malloc_cases (j.reuseTotalSize32 0 0 j.graph.bss0.reuseSections) with e | e <;> simp [e]

/-- The centralized path goes past its top buffers exactly when it does not fall back. -/
theorem JobV3_1.allocSubgraphBuffersOptimized_central {p : JobV3_1 × Int}
    (ok : j.allocSubgraphBuffersOptimized = .ok p) (ne : p.2 ≠ -1) :
    j.fmMemRegionDefault = true ∧ j.allocTopPriv.1.allocTopReuse.2 = true ∧
      j.allocSubgraphBuffersOptimized = j.allocTopPriv.1.allocTopReuse.1.allocViews := by
  unfold JobV3_1.allocSubgraphBuffersOptimized at ok ⊢
  split_ifs at ok ⊢ with fm priv reuse
  · cases ok
    exact absurd rfl ne
  · cases ok
    exact absurd rfl ne
  · cases ok
    exact absurd rfl ne
  · exact ⟨by simpa using fm, by simpa using reuse, rfl⟩

/-- Step 4 on success. On the scatter path the subgraph records and BSS entries hold fresh
allocations; on the centralized path they hold views of `tot_priv` and `tot_reuse`, apart
from the reuse buffers BSS 0 allocates on its own. Either way the memory gains exactly the
allocations the job then holds. -/
theorem JobV3_1.allocSubgraphs_paths (empty : j.sgJob = []) (noBss : j.bssBufferVec = [])
    (priv : j.topPrivBuf = none) (reuse : j.topReuseBuf = none) (unset : j.pprint = none)
    {k : JobV3_1} (ok : j.allocSubgraphs = .ok (k, .success)) :
    (∃ mem recs entries pprint,
      k = { j with mem, sgJob := recs, bssBufferVec := entries, pprint } ∧
      j.mem.Gains mem (recs.flatMap SubGraphTask.reusePrivBuffers ++
        entries.flatMap BssBuffer.reuses ++ pprint.toList) ∧
      Freeable pprint ∧ (∀ t ∈ recs, ∀ b ∈ t.reusePrivBuffers, b.Owned) ∧
      (∀ e ∈ entries, e.dmaBufIdx = [] ∧ ∀ b ∈ e.reuses, b.Owned) ∧
      (entries = [] ∨ entries.length = j.graph.bss.length)) ∨
    (j.fmMemRegionDefault = true ∧ ∃ mem topPriv id recs R pprint,
      k =
        { j with mem, topPrivBuf := topPriv,
                 topReuseBuf := some (.owned id (j.reuseTotalSize32 0 0 j.graph.bss0.reuseSections)),
                 sgJob := recs,
                 bssBufferVec := (List.range j.graph.bss.length).map fun b =>
                   if b = 0 then ⟨R, true, []⟩ else BssBuffer.empty,
                 pprint, optimizedReuseAlloc := true } ∧
      j.mem.Gains mem (topPriv.toList ++
        [.owned id (j.reuseTotalSize32 0 0 j.graph.bss0.reuseSections)] ++ R ++ pprint.toList) ∧
      Freeable pprint ∧ Freeable topPriv ∧ (topPriv ≠ none → j.sgCnt ≠ 0) ∧
      (topPriv = none → ∀ t ∈ recs, t.reusePrivBuffers = []) ∧
      (∀ t ∈ recs, ∀ b ∈ t.reusePrivBuffers, ¬b.Owned) ∧
      ((∀ k, j.reuseKind k = .central) → ∀ b ∈ R, ¬b.Owned) ∧ (j.graph.bss.length = 0 → R = [])) := by
  obtain ⟨⟨k₀, n⟩, opt, rest⟩ := JobV3_1.allocSubgraphs_ok.mp ok
  dsimp only at rest
  by_cases fallback : n = -1
  · left
    subst fallback
    obtain ⟨mem₀, rfl, gains₀⟩ := j.allocSubgraphBuffersOptimized_fallback priv reuse opt
    rw [if_pos rfl] at rest
    set k' : JobV3_1 := { j with mem := mem₀ }
    have ok : k'.allocSubgraphBuffers.2 = .success := by rw [rest]
    rw [show k = k'.allocSubgraphBuffers.1 by rw [rest]]
    unfold JobV3_1.allocSubgraphBuffers at ok ⊢
    by_cases sgOk : (k'.allocSgPrivate (SubGraphTask.reset 0) (List.range k'.sgCnt)).2.2 = .success
    swap
    · rw [if_pos sgOk] at ok
      exact absurd ok sgOk
    rw [if_neg (not_not.mpr sgOk)] at ok ⊢
    obtain ⟨mem₁, recs, eq₁, gains₁, owned₁⟩ := k'.allocSgPrivate_shape _ _ sgOk
    set r := k'.allocSgPrivate (SubGraphTask.reset 0) (List.range k'.sgCnt)
    by_cases bOk : (r.1.allocBssScatter r.2.1.id (List.range r.1.graph.bss.length)).2 = .success
    swap
    · rw [if_pos bOk] at ok
      exact absurd ok bOk
    rw [if_neg (not_not.mpr bOk)]
    obtain ⟨mem₂, entries, eq₂, gains₂, owned₂, len₂⟩ := r.1.allocBssScatter_shape _ _ bOk
    set b := r.1.allocBssScatter r.2.1.id (List.range r.1.graph.bss.length)
    have printf := b.1.allocPrintf_fst (by rw [eq₂, eq₁]; exact unset)
    set q := b.1.mem.mallocIf (0 < b.1.sgCnt ∧ 0 < (b.1.subgraph 0).printfifoSize) (b.1.sgCnt * aipuPageSize)
    have gains₃ := b.1.mem.gains_mallocIf (0 < b.1.sgCnt ∧ 0 < (b.1.subgraph 0).printfifoSize)
      (b.1.sgCnt * aipuPageSize)
    have gains₂' : mem₁.Gains b.1.mem (entries.flatMap BssBuffer.reuses) := by
      rw [eq₂]
      rw [eq₁] at gains₂
      exact gains₂
    refine ⟨q.1, recs, entries, q.2, ?_, by simpa using (gains₀.trans gains₁).trans (gains₂'.trans gains₃),
      b.1.mem.freeable_mallocIf fun h => Nat.mul_pos h.1 (by decide), owned₁, owned₂, ?_⟩
    · rw [printf, eq₂, eq₁, empty, noBss]
      rfl
    · rw [eq₁] at len₂
      by_cases last : r.2.1.id = 0
      · rw [if_pos last, List.length_range] at len₂
        exact .inr len₂
      · rw [if_neg last, List.length_eq_zero] at len₂
        exact .inl len₂
  · right
    rw [if_neg fallback] at rest
    obtain ⟨fm, reuseOk, central⟩ := j.allocSubgraphBuffersOptimized_central opt fallback
    rw [central] at opt
    have zero : n = 0 := by
      obtain ⟨v, -, eq⟩ := JobV3_1.allocViews_ok.mp opt
      rcases v.allocCentralRest_result with h | h <;> rw [eq] at h
      · exact h
      · rw [if_pos h] at rest
        cases rest
    subst zero
    rw [if_neg (by decide)] at rest
    cases rest
    obtain ⟨topPriv, -⟩ := j.allocTopPriv_fst priv
    have reuseSnd := j.allocTopPriv.1.allocTopReuse_snd
    obtain ⟨topReuse, -⟩ := j.allocTopPriv.1.allocTopReuse_fst (by rw [topPriv]; exact reuse)
    rw [reuseOk, eq_comm, Option.isSome_iff_exists] at reuseSnd
    obtain ⟨b, some'⟩ := reuseSnd
    have graph : j.allocTopPriv.1.graph = j.graph := by rw [topPriv]
    have size := JobV3_1.reuseTotalSize32_congr graph (by rw [topPriv]) 0 0 j.graph.bss0.reuseSections
    rw [graph, size] at topReuse some'
    rw [some', MemMgr.malloc_some some'] at topReuse
    rw [topReuse, topPriv] at opt
    obtain ⟨mem, recs, R, pprint, eq, gains, fp, views, none', centralR, noR⟩ :=
      JobV3_1.allocViews_shape (by exact unset) opt rfl
    set P := maxPrivateSize32 0 0 ((List.range j.sgCnt).map j.subgraph)
    have g₀ := j.mem.gains_mallocIf (P ≠ 0) P
    have g₁ := j.allocTopPriv.1.mem.gains_malloc (j.reuseTotalSize32 0 0 j.graph.bss0.reuseSections)
    rw [some', MemMgr.malloc_some some', topPriv] at g₁
    refine ⟨fm, mem, (j.mem.mallocIf (P ≠ 0) P).2, (j.mem.mallocIf (P ≠ 0) P).1.nextId, recs, R, pprint,
      ?_, ?_, fp, j.mem.freeable_mallocIf Nat.pos_of_ne_zero, ?_, none',
      fun t ht b hb ⟨id, size, e⟩ => ?_, centralR, noR⟩
    · rw [show k = _ from eq, empty, noBss]
      rfl
    · rw [List.append_assoc]
      exact (g₀.trans g₁).trans gains
    · intro some'' sg0
      apply some''
      have : P = 0 := by simp only [P, sg0]; rfl
      simp [MemMgr.mallocIf, this]
    · obtain ⟨o, s, e'⟩ := views t ht b hb
      rw [e] at e'
      cases e'

end Subgraphs

/-! ## The task loop -/

/-- The allocation loop of the tasks gains exactly the stacks and private data it hands
out, when it succeeds. -/
theorem allocTasks_gains (stackSize dpSize : Nat) (mem : MemMgr) (n : Nat)
    (ok : (allocTasks stackSize dpSize mem n).2.2 = .success) :
    mem.Gains (allocTasks stackSize dpSize mem n).1 (taskBuffers (allocTasks stackSize dpSize mem n).2.1) := by
  induction n generalizing mem with
  | zero => exact .refl mem
  | succ n ih =>
    simp only [allocTasks] at ok ⊢
    have stack := mem.gains_malloc stackSize
    rcases mem.malloc_cases stackSize with e | e <;> rw [e] at ok stack ⊢
    · simp at ok
    dsimp only at ok stack ⊢
    by_cases nodp : dpSize = 0
    · rw [if_pos nodp] at ok ⊢
      simpa [taskBuffers, Task.buffers] using stack.trans (ih _ ok)
    · rw [if_neg nodp] at ok ⊢
      generalize ({ mem with outcomes := mem.outcomes.tail, nextId := mem.nextId + 1,
                             live := mem.live ++ [mem.nextId] } : MemMgr) = mem₁ at ok stack ⊢
      have dp := mem₁.gains_malloc dpSize
      rcases mem₁.malloc_cases dpSize with e' | e' <;> rw [e'] at ok dp ⊢
      · simp at ok
      simpa [taskBuffers, Task.buffers] using (stack.trans dp).trans (ih _ ok)

section Tasks

variable {j : JobV3_1} {n sgIdx : Nat} {depAll : Bool} {B : Multiset Nat} {M : List BufferDesc}

/-- A subgraph that takes tasks over holds nothing new: the tasks stay counted with the
subgraph that allocated them. -/
theorem JobV3_1.shareTasks_holdings (inv : j.TaskInv n sgIdx depAll) (src : Nat) :
    (j.shareTasks n src).holdings = j.holdings := by
  have keep : ∀ a ∈ j.sgtAllocated, ((j.shareTasks n src).sgTask a).tasks = (j.sgTask a).tasks :=
    fun a ha => by rw [j.shareTasks_sgTask_ne src (Nat.ne_of_lt (inv.below a ha))]
  unfold JobV3_1.holdings
  rw [JobV3_1.taskPool_congr (j := j) (k := j.shareTasks n src) rfl keep]
  simp only [JobV3_1.shareTasks, JobV3_1.modifySgTask, privates_modifyTasks]

/-- A subgraph that gets tasks of its own holds them, and the memory gains them. -/
theorem JobV3_1.ownTasks_accounted (inv : j.TaskInv n sgIdx depAll) (inRange : n < j.sgJob.length)
    (ok : (j.ownTasks n).2 = .success) (acc : j.Accounted B M) : (j.ownTasks n).1.Accounted B M := by
  obtain ⟨mem, fresh, alloc, result⟩ := j.ownTasks_of_success n ok
  have gains := allocTasks_gains j.graph.bss0.stackSize (j.subgraph n).privateDataSize j.mem j.taskPerSg
    (by rw [alloc])
  rw [alloc] at gains
  have mine : ((j.ownTasks n).1.sgTask n).tasks = fresh := by
    rw [result]
    show ((j.modifySgTask n _).sgTask n).tasks = fresh
    rw [j.sgTask_modifySgTask_self _ inRange]
    simp only [inv.later n le_rfl, List.nil_append]
  have keep : ∀ a ∈ j.sgtAllocated, ((j.ownTasks n).1.sgTask a).tasks = (j.sgTask a).tasks := fun a ha => by
    rw [result]
    exact congrArg SubGraphTask.tasks (j.sgTask_modifySgTask_ne _ (Nat.ne_of_gt (inv.below a ha)))
  have pool := JobV3_1.taskPool_join (by rw [result]) mine keep
  refine acc.gain (by rw [result]; exact gains) ?_
  unfold JobV3_1.holdings
  rw [pool, result]
  simp only [JobV3_1.modifySgTask, privates_modifyTasks, allocIds_append, add_assoc]

/-- The task loop keeps the job accounted for: the memory gains exactly the tasks of the
subgraphs that allocate. -/
theorem JobV3_1.initTasks_accounted (m : Nat) (inv : j.TaskInv n sgIdx depAll) (acc : j.Accounted B M)
    (inRange : n + m ≤ j.sgJob.length) (ok : (j.initTasks sgIdx depAll (List.range' n m)).2 = .success) :
    (j.initTasks sgIdx depAll (List.range' n m)).1.Accounted B M :=
  (JobV3_1.TaskInv.run_keeps (fun k => k.Accounted B M)
    (fun src inv acc => ⟨by rw [JobV3_1.shareTasks_holdings inv src]; exact acc.live, acc.misuse⟩)
    (fun inv inRange ok acc => JobV3_1.ownTasks_accounted inv inRange ok acc) m inv acc inRange ok).1

end Tasks



/-! ## What the allocation steps leave -/

/-- What the allocation steps of `alloc_load_job_buffers` leave in the job's pointers and
buffer lists, on either path of step 4. The model global parameter is an allocation of
the graph's size, made for a dynamic-shape graph with a shape configuration; every other
pointer but `tot_reuse` is unset or an allocation of positive size. The private buffers
are allocations unless `tot_priv` is set, and then views. The BSS buffers hold
allocations unless `tot_reuse` is set; then it is an allocation that holds memory once
some central reuse section is not empty and `reuse_buf_total_size` does not wrap, BSS 0
holds the reuse buffers of the centralized path and every other BSS nothing. -/
structure JobV3_1.Buffered (j : JobV3_1) : Prop where
  modelGlobalParam : ∀ b ∈ j.modelGlobalParam, (∃ id, b = .owned id j.graph.globalParamSize) ∧
    j.graph.dynamicShape = true ∧ j.configShape ≠ []
  rodata : Freeable j.rodata
  descriptor : Freeable j.descriptor
  tcbs : Freeable j.tcbs
  pprint : Freeable j.pprint
  topPriv : Freeable j.topPrivBuf
  notFreed : j.topPrivBufFreed = false
  privates : j.topPrivBuf = none → ∀ b ∈ j.sgJob.flatMap SubGraphTask.reusePrivBuffers, b.Owned
  views : j.topPrivBuf ≠ none →
    j.sgCnt ≠ 0 ∧ ∀ b ∈ j.sgJob.flatMap SubGraphTask.reusePrivBuffers, ¬b.Owned
  scatter : j.topReuseBuf = none → ∀ e ∈ j.bssBufferVec, e.dmaBufIdx = [] ∧ ∀ b ∈ e.reuses, b.Owned
  central : ∀ b ∈ j.topReuseBuf, j.fmMemRegionDefault = true ∧
    (∃ id size, b = .owned id size ∧
      (((j.graph.bss0.reuseSections.enum.filter fun p => j.reuseKind p.1 = .central).map
          fun p => alignPage p.2.size).sum < 2 ^ 32 →
        ∀ k sec, j.graph.bss0.reuseSections[k]? = some sec → sec.size ≠ 0 →
          j.reuseKind k = .central → 0 < size)) ∧
    ∃ R, j.bssBufferVec = (List.range j.graph.bss.length).map (fun b =>
        if b = 0 then ⟨R, true, []⟩ else BssBuffer.empty) ∧
      ((∀ k, j.reuseKind k = .central) → ∀ b ∈ R, ¬b.Owned)
  bss : j.bssBufferVec = [] ∨ j.bssBufferVec.length = j.graph.bss.length

section Loading

variable {j : JobV3_1} {B : Multiset Nat} {M : List BufferDesc}

/-- Step 0 from an unset model global parameter. -/
theorem JobV3_1.allocModelParam_loads (unset : j.modelGlobalParam = none) (buffered : j.Buffered)
    (acc : j.Accounted B M) : j.allocModelParam.1.Buffered ∧ j.allocModelParam.1.Accounted B M := by
  rw [j.allocModelParam_fst unset]
  refine ⟨{ buffered with modelGlobalParam := fun b h => ?_ }, acc.gain (j.mem.gains_mallocIf _ _) ?_⟩
  · obtain ⟨⟨dyn, -, len⟩, e⟩ := MemMgr.mem_mallocIf h
    exact ⟨⟨_, e⟩, dyn, List.ne_nil_of_length_pos len⟩
  · simp only [JobV3_1.holdings, JobV3_1.taskPool, JobV3_1.sgTask, unset, Option.toList_none,
      allocIds_append, allocIds_nil, zero_add]
    ac_rfl

/-- Steps 1 to 3 from unset pointers. -/
theorem JobV3_1.allocJobWide_loads (rodata : j.rodata = none) (descriptor : j.descriptor = none)
    (tcbs : j.tcbs = none) (ok : j.allocJobWide.2 = .success) (buffered : j.Buffered)
    (acc : j.Accounted B M) : j.allocJobWide.1.Buffered ∧ j.allocJobWide.1.Accounted B M := by
  obtain ⟨mem, r, d, t, eq, gains, fr, fd, ft⟩ := j.allocJobWide_shape rodata descriptor tcbs ok
  rw [eq]
  refine ⟨{ buffered with rodata := fr, descriptor := fd, tcbs := ft }, acc.gain gains ?_⟩
  simp only [JobV3_1.holdings, JobV3_1.taskPool, JobV3_1.sgTask, rodata, descriptor, tcbs,
    Option.toList_none, allocIds_append, allocIds_nil, add_zero]
  ac_rfl

/-- Step 4 changes only the memory manager, the top buffers, the records, the BSS buffers
and the printf buffer, on either path. -/
theorem JobV3_1.allocSubgraphs_keeps (empty : j.sgJob = []) (noBss : j.bssBufferVec = [])
    (priv : j.topPrivBuf = none) (reuse : j.topReuseBuf = none) (unset : j.pprint = none)
    {k : JobV3_1} (ok : j.allocSubgraphs = .ok (k, .success)) :
    { k with
      mem := j.mem, topPrivBuf := j.topPrivBuf, topReuseBuf := j.topReuseBuf, sgJob := j.sgJob,
      bssBufferVec := j.bssBufferVec, pprint := j.pprint, optimizedReuseAlloc := j.optimizedReuseAlloc } = j := by
  rcases j.allocSubgraphs_paths empty noBss priv reuse unset ok with
    ⟨_, _, _, _, rfl, -⟩ | ⟨-, _, _, _, _, _, _, rfl, -⟩ <;> rfl

/-- Step 4 from a job without subgraph or BSS buffers, on either path. -/
theorem JobV3_1.allocSubgraphs_loads (empty : j.sgJob = []) (noBss : j.bssBufferVec = [])
    (priv : j.topPrivBuf = none) (reuse : j.topReuseBuf = none) (unset : j.pprint = none)
    (noAllocated : j.sgtAllocated = []) {k : JobV3_1} (ok : j.allocSubgraphs = .ok (k, .success))
    (buffered : j.Buffered) (acc : j.Accounted B M) : k.Buffered ∧ k.Accounted B M := by
  rcases j.allocSubgraphs_paths empty noBss priv reuse unset ok with
    ⟨mem, recs, entries, pprint, rfl, gains, fp, owned₁, owned₂, len⟩ |
    ⟨fm, mem, topPriv, id, recs, R, pprint, rfl, gains, fp, ftp, count, none', views, centralR, noR⟩ <;>
    refine ⟨?_, acc.gain gains ?_⟩
  · refine { buffered with pprint := fp, privates := fun _ b hb => ?_, views := fun h => absurd priv h,
                           scatter := fun _ => owned₂, central := fun b hb => ?_, bss := len }
    · obtain ⟨t, ht, hb⟩ := List.mem_flatMap.mp hb
      exact owned₁ t ht b hb
    · simp [reuse] at hb
  · simp only [JobV3_1.holdings, JobV3_1.taskPool, JobV3_1.sgTask, empty, noBss, unset, noAllocated,
      List.flatMap_nil, Option.toList_none, allocIds_append, allocIds_nil, add_zero, zero_add]
    ac_rfl
  · refine { buffered with pprint := fp, topPriv := ftp, privates := fun h b hb => ?_,
                           views := fun h => ⟨count h, fun b hb => ?_⟩, scatter := nofun,
                           central := fun b hb => ⟨fm, ⟨id, _, (Option.some.inj hb).symm,
                             fun fits _ _ get ne kind => j.reuseTotalSize32_pos fits get ne kind⟩,
                             R, rfl, centralR⟩,
                           bss := .inr (by simp) }
    · obtain ⟨t, ht, hb⟩ := List.mem_flatMap.mp hb
      rw [none' h t ht] at hb
      cases hb
    · obtain ⟨t, ht, hb⟩ := List.mem_flatMap.mp hb
      exact views t ht b hb
  · simp only [JobV3_1.holdings, JobV3_1.taskPool, JobV3_1.sgTask, empty, noBss, unset, noAllocated,
      priv, reuse, List.flatMap_nil, Option.toList_none, Option.toList_some, allocIds_append,
      allocIds_nil, add_zero, zero_add, centralBss_reuses noR,
      allocIds_eq_zero fun b hb => let ⟨t, ht, hb⟩ := List.mem_flatMap.mp hb; views t ht b hb]
    ac_rfl

/-- The task loop keeps what the allocation steps left. -/
theorem JobV3_1.Buffered.taskFrame {a b : JobV3_1} (buffered : a.Buffered) (tf : a.TaskFrame b) :
    b.Buffered := by
  rw [tf.others]
  exact { buffered with
    privates := by simpa only [tf.privates] using buffered.privates
    views := by simpa only [tf.privates] using buffered.views }

end Loading

/-! ## A successful `init` -/

/-- What a successful `init` leaves: the pointers and buffer lists as the allocation
steps leave them, BSS buffers to read, one record per subgraph, and the tasks of the
subgraphs in `m_sgt_allocated`, each subgraph there once with `m_task_per_sg` tasks that
are allocations. -/
structure JobV3_1.Loaded (j : JobV3_1) extends JobV3_1.Buffered j : Prop where
  bssNonempty : j.bssBufferVec ≠ []
  length : j.sgJob.length = j.sgCnt
  nodup : j.sgtAllocated.Nodup
  allocated : ∀ a ∈ j.sgtAllocated, a < j.sgCnt ∧ (j.sgTask a).tasks.length = j.taskPerSg
  taskOwned : ∀ b ∈ j.taskPool, b.Owned

/-- What a job keeps from its creation through `init`: the graph and configuration it was
created with, one group id per subgraph, and the device and start the device's grant
left. -/
structure JobV3_1.Created (j : JobV3_1) (g : Graph) (fm : Bool) (idxes : List Nat) (shapes : List Bool)
    (d : Device) : Prop where
  graph : j.graph = g
  fmMemRegionDefault : j.fmMemRegionDefault = fm
  fmIdxes : j.fmIdxes = idxes
  configShape : j.configShape = shapes
  sgCnt : j.sgCnt = g.subgraphCnt
  granted : d.getStartGroupId g.subgraphCnt 0 = (j.dev, some j.startGroupId)

/-- A successful `init` leaves the job loaded, the memory manager holding what it held
before together with the allocations the job holds, and the graph, configuration and
group ids the job was created and granted with. -/
theorem JobV3_1.init_loaded {graph : Graph} {fmMemRegionDefault : Bool} {fmIdxes : List Nat}
    {dynShapeSet : Bool} {configShape : List Bool} {mem : MemMgr} {dev : Device} {j : JobV3_1}
    (ok : (JobV3_1.create graph fmMemRegionDefault fmIdxes dynShapeSet configShape mem dev).init =
      .ok (j, .success)) :
    j.Loaded ∧ j.Accounted mem.live mem.misuse ∧ j.Created graph fmMemRegionDefault fmIdxes configShape dev := by
  obtain ⟨dev', start, granted, chain⟩ := JobV3_1.init_loads ok
  obtain ⟨s, loaded, bss, rfl⟩ :=
    JobV3_1.allocLoadJobBuffers_success (JobV3_1.loadAndChain_success chain)
  set c : JobV3_1 := { (JobV3_1.create graph fmMemRegionDefault fmIdxes dynShapeSet configShape mem dev).setJobParams
                       with dev := dev', startGroupId := start }
  have s₀ : c.Buffered ∧ c.Accounted mem.live mem.misuse :=
    ⟨⟨nofun, freeable_none, freeable_none, freeable_none, freeable_none, freeable_none, rfl, nofun,
      nofun, nofun, nofun, .inl rfl⟩, ⟨by rw [show allocIds c.holdings = 0 from rfl, add_zero]; rfl, rfl⟩⟩
  obtain ⟨-, wide, u, sub, tasks⟩ := JobV3_1.allocBuffers_success loaded
  have p₀ := c.allocModelParam_fst rfl
  have s₁ := c.allocModelParam_loads rfl s₀.1 s₀.2
  set c₁ := c.allocModelParam.1
  obtain ⟨r₁, d₁, t₁⟩ : c₁.rodata = none ∧ c₁.descriptor = none ∧ c₁.tcbs = none := by
    rw [p₀]
    exact ⟨rfl, rfl, rfl⟩
  obtain ⟨_, _, _, _, p₂, -⟩ := c₁.allocJobWide_shape r₁ d₁ t₁ wide
  have s₂ := c₁.allocJobWide_loads r₁ d₁ t₁ wide s₁.1 s₁.2
  set c₂ := c₁.allocJobWide.1
  obtain ⟨empty, noBss, priv, reuse, unset, none'⟩ : c₂.sgJob = [] ∧ c₂.bssBufferVec = [] ∧
      c₂.topPrivBuf = none ∧ c₂.topReuseBuf = none ∧ c₂.pprint = none ∧ c₂.sgtAllocated = [] := by
    rw [p₂, p₀]
    exact ⟨rfl, rfl, rfl, rfl, rfl, rfl⟩
  have s₄ := c₂.allocSubgraphs_loads empty noBss priv reuse unset none' sub s₂.1 s₂.2
  have keeps := c₂.allocSubgraphs_keeps empty noBss priv reuse unset sub
  have created : c₂.Created graph fmMemRegionDefault fmIdxes configShape dev := by
    rw [p₂, p₀]
    exact ⟨rfl, rfl, rfl, rfl, rfl, granted⟩
  have laid := JobV3_1.allocSubgraphs_laid empty none' sub
  unfold JobV3_1.initPerTaskData at tasks
  rw [List.range_eq_range'] at tasks
  have done : (u.initTasks 0 false (List.range' 0 u.sgCnt)).2 = .success := by rw [tasks]
  have inRange : 0 + u.sgCnt ≤ u.sgJob.length := by rw [laid.length, laid.sgCnt, Nat.zero_add]
  have acc := JobV3_1.initTasks_accounted u.sgCnt laid.taskInv s₄.2 inRange done
  obtain ⟨_, _, inv⟩ := laid.taskInv.run _ inRange done
  have tf := JobV3_1.TaskFrame.initTasks u 0 false (List.range' 0 u.sgCnt)
  have result : (u.initTasks 0 false (List.range' 0 u.sgCnt)).1 = s := by rw [tasks]
  rw [result] at acc inv tf
  rw [Nat.zero_add] at inv
  refine ⟨{ toBuffered := { s₄.1.taskFrame tf with }, bssNonempty := bss,
            length := tf.length.trans (laid.length.trans (laid.sgCnt.symm.trans tf.sgCnt.symm))
            nodup := inv.nodup
            allocated := fun a ha => ⟨(inv.below a ha).trans_eq tf.sgCnt.symm, inv.length a ha⟩
            taskOwned := fun b hb => ?_ }, ⟨acc.live, acc.misuse⟩, ?_⟩
  · obtain ⟨id, size, e, -⟩ := inv.pool.owned b hb
    exact ⟨id, size, e⟩
  · rw [tf.others]
    rw [← keeps] at created
    exact { created with }

/-- After a successful `init`, the memory manager's live allocations are those live
before together with one for each allocation the job holds, and nothing was freed
wrongly: no allocation `init` makes is lost, and none is counted twice. -/
theorem init_accounts (graph : Graph) (fmMemRegionDefault : Bool) (fmIdxes : List Nat)
    (dynShapeSet : Bool) (configShape : List Bool) (mem : MemMgr) (dev : Device) {j : JobV3_1}
    (ok : (JobV3_1.create graph fmMemRegionDefault fmIdxes dynShapeSet configShape mem dev).init =
      .ok (j, .success)) :
    (j.mem.live : Multiset Nat) = mem.live + allocIds j.holdings ∧ j.mem.misuse = mem.misuse :=
  ⟨(JobV3_1.init_loaded ok).2.1.live, (JobV3_1.init_loaded ok).2.1.misuse⟩

theorem init_accounts_e3 :
    ∃ j, (JobV3_1.create e3Graph true [] false [] .fresh (.once 0)).init = .ok (j, .success) ∧
      (j.mem.live : Multiset Nat) = MemMgr.fresh.live + allocIds j.holdings ∧
        j.mem.misuse = MemMgr.fresh.misuse :=
  ⟨_, rfl, init_accounts e3Graph true [] false [] .fresh (.once 0) rfl⟩

end AipuUmd
