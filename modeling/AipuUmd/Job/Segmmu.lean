import AipuUmd.Job.State

/-!
# SegMMU setup

`JobV3_1::setup_segmmu`, step 9 of `alloc_load_job_buffers`, gives each of the
`m_core_cnt` cores a `SegMMUConfig` from the `.note.aipu.segmmu` section, then
reprograms their segment control words from the job's SegMMU-tagged I/O buffers.

The section is read as `set_segmmu` keeps it: `m_segmmu_num` from its first four bytes,
and the records after them. The loop sets `SegMMU_ctl` and `SegMMU_remap` in the record
of the section before it copies the record; only this loop reads the two words, and it
sets them to the same values each time, so the copy is modelled and the write to the
section is left out.

* `setupSegmmu_eq`: for a section with records, the records `setup_segmmu` builds, for
  every core count and every buffer list. Unless `m_segmmu_num == 1`, core `i` gets the
  record after the `i`-th, and a section of at most `m_core_cnt` records is read past
  its end. The buffers are applied up to the first one whose id is refused, and the
  status is success either way.
-/

namespace AipuUmd

/-! ## Records and ids -/

/-- `SEGMMU_MEM_CTRL_EN`. -/
def segmmuMemCtrlEn : Nat := 1 <<< 0

/-- `SEGMMU_REMAP_SHARE_EN`. -/
def segmmuRemapShareEn : Nat := 1 <<< 5

/-- The record a core is given: `SegMMU_ctl = SEGMMU_REMAP_SHARE_EN | SEGMMU_MEM_CTRL_EN`
and `SegMMU_remap = 0`. -/
def SegMMUConfig.shared (cfg : SegMMUConfig) : SegMMUConfig :=
  { cfg with segmmuCtl := segmmuRemapShareEn ||| segmmuMemCtrlEn, segmmuRemap := 0 }

/-- `ctrl &= 0x3fff; ctrl |= (iobuf.pa & (~0x3fff))` into a `uint32_t`: the low 14 bits
of the old word, bits 14 to 31 of the address. -/
def segmmuControl (ctrl pa : Nat) : Nat := (ctrl &&& 0x3fff) ||| (pa &&& 0xffffc000)

/-- The control word at `idx` reprogrammed for the address `pa`. -/
def SegMMUConfig.program (cfg : SegMMUConfig) (idx pa : Nat) : SegMMUConfig :=
  { cfg with
    control := cfg.control.set idx (segmmuControl (cfg.control.getD idx 0) pa)
    control_length := by rw [List.length_set, cfg.control_length] }

/-- `segmmu_ctrl_idx`, bits 0 to 7 of `union segmmu_id`. -/
def JobIOBuffer.ctrlIdx (b : JobIOBuffer) : Nat := b.id &&& 0xff

/-- `segmmu_idx`, bits 8 to 15. -/
def JobIOBuffer.segIdx (b : JobIOBuffer) : Nat := (b.id >>> 8) &&& 0xff

/-- `core_id_mask`, bits 16 to 31. -/
def JobIOBuffer.coreIdMask (b : JobIOBuffer) : Nat := (b.id >>> 16) &&& 0xffff

/-- The record of a core the buffer selects, its control word reprogrammed. -/
def JobIOBuffer.programRecord (b : JobIOBuffer) (cfg : SegMMUConfig) : SegMMUConfig :=
  cfg.program (2 * b.segIdx + b.ctrlIdx) b.pa

/-! ## `setup_segmmu` -/

/-- The first loop of `setup_segmmu` over the `n` cores left, `segmmu` at record `ptr`:
unless `m_segmmu_num == 1` the pointer is advanced before the record is read. A pointer
past the records of the section is a fault. -/
def segmmuCoreLoop (records : List SegMMUConfig) (num : Nat) :
    Nat → Nat → Except Fault (List SegMMUConfig)
  | _, 0 => pure []
  | ptr, n + 1 =>
    let ptr := if num ≠ 1 then ptr + 1 else ptr
    match records[ptr]? with
    | none => .error (.segmmuConfig ptr)
    | some cfg => do
      let rest ← segmmuCoreLoop records num ptr n
      pure (cfg.shared :: rest)

/-- The core loop for one buffer: the record of each core the mask selects is
reprogrammed once the segment and control indices pass their checks. A failed check is
the `goto out`, reported as `false` with the records as they are. -/
def JobIOBuffer.programCores (b : JobIOBuffer) :
    List SegMMUConfig → List Nat → List SegMMUConfig × Bool
  | secs, [] => (secs, true)
  | secs, core :: cores =>
    if b.coreIdMask &&& (1 <<< core) = 0 then b.programCores secs cores
    else if b.segIdx < 4 then
      if b.ctrlIdx ≤ 1 then b.programCores (secs.modify b.programRecord core) cores
      else (secs, false)
    else (secs, false)

/-- The loop over `m_segmmus`. A buffer whose mask selects no core below `m_core_cnt`,
or whose indices fail their checks, ends it (`goto out`) with the records as they are. -/
def segmmuBufferLoop (coreCnt : Nat) : List SegMMUConfig → List JobIOBuffer → List SegMMUConfig
  | secs, [] => secs
  | secs, b :: bs =>
    if b.coreIdMask &&& ((1 <<< coreCnt) - 1) = 0 then secs
    else match b.programCores secs (List.range coreCnt) with
      | (secs, true) => segmmuBufferLoop coreCnt secs bs
      | (secs, false) => secs

/-- `JobV3_1::setup_segmmu` for `m_segmmu_num = num`, the section's `records`,
`m_core_cnt = coreCnt` and `m_segmmus = segmmus`, on a job whose `m_segmmu_sec` is still
empty: the records of `m_segmmu_sec` and the status. `ret` is never assigned after its
initialisation, so every exit returns `AIPU_STATUS_SUCCESS`. -/
def setupSegmmu (num : Nat) (records : List SegMMUConfig) (coreCnt : Nat)
    (segmmus : List JobIOBuffer) : Except Fault (List SegMMUConfig × Status) :=
  if num = 0 then pure ([], .success)
  else do
    let secs ← segmmuCoreLoop records num 0 coreCnt
    pure (segmmuBufferLoop coreCnt secs segmmus, .success)

/-- Every exit of `setup_segmmu` that does not fault returns `AIPU_STATUS_SUCCESS`. -/
theorem setupSegmmu_status {num coreCnt : Nat} {records : List SegMMUConfig}
    {segmmus : List JobIOBuffer} {r : List SegMMUConfig × Status}
    (ok : setupSegmmu num records coreCnt segmmus = .ok r) : r.2 = .success := by
  unfold setupSegmmu at ok
  split at ok
  · cases ok
    rfl
  · obtain ⟨secs, -, rest⟩ := bind_eq_ok.mp ok
    cases rest
    rfl

/-! ## What the spec describes -/

/-- An id the range checks of the spec accept for `coreCnt` cores: a segment below 4, a
control word below 2, and a core mask that selects some core below `coreCnt`. -/
def JobIOBuffer.Valid (coreCnt : Nat) (b : JobIOBuffer) : Prop :=
  b.segIdx < 4 ∧ b.ctrlIdx < 2 ∧ ∃ i < coreCnt, b.coreIdMask.testBit i

instance (coreCnt : Nat) : DecidablePred (JobIOBuffer.Valid coreCnt) := fun _ =>
  inferInstanceAs (Decidable (_ ∧ _ ∧ _))

/-- The record of core `i` after the buffers `bufs`: each buffer that selects core `i`
reprograms it, in order. -/
def programFor (bufs : List JobIOBuffer) (i : Nat) (cfg : SegMMUConfig) : SegMMUConfig :=
  bufs.foldl (fun cfg b => if b.coreIdMask.testBit i then b.programRecord cfg else cfg) cfg

/-! ## The masks -/

theorem and_eq_zero_iff_testBit {x y : Nat} :
    x &&& y = 0 ↔ ∀ i, x.testBit i → y.testBit i = false := by
  constructor
  · intro h i hx
    simpa [Nat.testBit_and, hx] using congrArg (Nat.testBit · i) h
  · intro h
    refine Nat.eq_of_testBit_eq fun i => ?_
    cases hx : x.testBit i <;> simp [Nat.testBit_and, hx, h i]

/-- The test of the core loop is bit `core` of the mask. -/
theorem JobIOBuffer.skips_iff (b : JobIOBuffer) (core : Nat) :
    b.coreIdMask &&& (1 <<< core) = 0 ↔ b.coreIdMask.testBit core = false := by
  rw [and_eq_zero_iff_testBit, Nat.one_shiftLeft]
  constructor
  · intro h
    cases hb : b.coreIdMask.testBit core
    · rfl
    · simpa using h core hb
  · intro h i hi
    rw [Nat.testBit_two_pow, decide_eq_false_iff_not]
    rintro rfl
    rw [h] at hi
    cases hi

/-- The test before the core loop: the mask selects no core below `coreCnt`. -/
theorem JobIOBuffer.selectsNone_iff (b : JobIOBuffer) (coreCnt : Nat) :
    b.coreIdMask &&& ((1 <<< coreCnt) - 1) = 0 ↔
      ∀ i < coreCnt, b.coreIdMask.testBit i = false := by
  rw [Nat.one_shiftLeft, Nat.and_pow_two_sub_one_eq_mod]
  constructor
  · intro h i lt
    simpa [Nat.testBit_mod_two_pow, lt] using congrArg (Nat.testBit · i) h
  · intro h
    refine Nat.eq_of_testBit_eq fun i => ?_
    by_cases lt : i < coreCnt <;> simp [Nat.testBit_mod_two_pow, lt, h i]

/-! ## The core loop -/

/-- With one record for all cores, each core gets a copy of it. -/
theorem segmmuCoreLoop_shared (records : List SegMMUConfig) {ptr : Nat} {cfg : SegMMUConfig}
    (read : records[ptr]? = some cfg) :
    ∀ n, segmmuCoreLoop records 1 ptr n = .ok (List.replicate n cfg.shared)
  | 0 => rfl
  | n + 1 => by
    simp only [segmmuCoreLoop, ne_eq, not_true_eq_false, if_false, read,
      segmmuCoreLoop_shared records read n]
    rfl

/-- Otherwise core by core the pointer moves to the next record before it reads it, up
to the first pointer past the records. -/
theorem segmmuCoreLoop_next (records : List SegMMUConfig) {num : Nat} (several : num ≠ 1) :
    ∀ ptr n, segmmuCoreLoop records num ptr n =
      if records.length ≤ ptr + n ∧ 0 < n then
        .error (.segmmuConfig (max (ptr + 1) records.length))
      else .ok ((List.range' (ptr + 1) n).map fun k => (records.getD k default).shared)
  | _, 0 => by simp [segmmuCoreLoop]; rfl
  | ptr, n + 1 => by
    have rest := segmmuCoreLoop_next records several (ptr + 1) n
    simp only [segmmuCoreLoop, if_pos several]
    by_cases inside : ptr + 1 < records.length
    · rw [List.getElem?_eq_getElem inside]
      dsimp only
      rw [rest]
      by_cases stop : records.length ≤ ptr + 1 + n ∧ 0 < n
      · rw [if_pos stop, if_pos (by omega), Nat.max_eq_right (by omega),
          Nat.max_eq_right (by omega)]
        rfl
      · rw [if_neg stop, if_neg (by omega), List.range'_succ, List.map_cons,
          List.getD_eq_getElem?_getD, List.getElem?_eq_getElem inside, Option.getD_some]
        rfl
    · rw [List.getElem?_eq_none (by omega), if_pos (by omega), Nat.max_eq_left (by omega)]

/-! ## The buffer loop -/

theorem modify_map_range {α : Type} (F : Nat → α) (f : α → α) (c a : Nat) :
    ((List.range c).map F).modify f a =
      (List.range c).map fun i => if i = a then f (F i) else F i := by
  refine List.ext_getElem (by simp) fun i _ _ => ?_
  simp [List.getElem_modify, eq_comm]

/-- A buffer whose indices pass their checks reprograms, over the cores
`a, ..., a + n - 1`, the record of each core its mask selects. -/
theorem JobIOBuffer.programCores_accepted (b : JobIOBuffer) (ok : b.segIdx < 4 ∧ b.ctrlIdx ≤ 1)
    (c : Nat) : ∀ (F : Nat → SegMMUConfig) (a n : Nat),
      b.programCores ((List.range c).map F) (List.range' a n) =
        ((List.range c).map fun i =>
          if a ≤ i ∧ i < a + n ∧ b.coreIdMask.testBit i then b.programRecord (F i) else F i, true)
  | F, a, 0 => by
    simp only [List.range'_zero, programCores, Prod.mk.injEq, and_true]
    exact List.map_congr_left fun i _ => by rw [if_neg (by omega)]
  | F, a, n + 1 => by
    rw [List.range'_succ, programCores]
    by_cases sel : b.coreIdMask.testBit a
    · rw [if_neg (by rw [b.skips_iff, sel]; exact nofun), if_pos ok.1, if_pos ok.2, modify_map_range,
        b.programCores_accepted ok c _ (a + 1) n, Prod.mk.injEq]
      refine ⟨List.map_congr_left fun i _ => ?_, rfl⟩
      by_cases at_a : i = a
      · subst at_a
        rw [if_neg fun h => Nat.not_succ_le_self i h.1, if_pos rfl, if_pos ⟨le_rfl, by omega, sel⟩]
      · simp only [at_a, if_false]
        refine if_congr ⟨fun ⟨h₁, h₂, h₃⟩ => ⟨by omega, by omega, h₃⟩,
          fun ⟨h₁, h₂, h₃⟩ => ⟨by omega, by omega, h₃⟩⟩ rfl rfl
    · rw [if_pos ((b.skips_iff a).2 (by simpa only [Bool.not_eq_true] using sel)), b.programCores_accepted ok c F (a + 1) n,
        Prod.mk.injEq]
      refine ⟨List.map_congr_left fun i _ => if_congr ⟨?_, ?_⟩ rfl rfl, rfl⟩
      · exact fun ⟨h₁, h₂, h₃⟩ => ⟨by omega, by omega, h₃⟩
      · rintro ⟨h₁, h₂, h₃⟩
        refine ⟨?_, by omega, h₃⟩
        rcases Nat.lt_or_eq_of_le h₁ with lt | rfl
        · omega
        · exact absurd h₃ sel

/-- Over all the cores, an accepted buffer reprograms the record of each core its mask
selects. -/
theorem JobIOBuffer.programCores_range (b : JobIOBuffer) (ok : b.segIdx < 4 ∧ b.ctrlIdx ≤ 1)
    (c : Nat) (F : Nat → SegMMUConfig) :
    b.programCores ((List.range c).map F) (List.range c) =
      ((List.range c).map fun i => if b.coreIdMask.testBit i then b.programRecord (F i) else F i,
        true) := by
  have all := b.programCores_accepted ok c F 0 c
  rw [← List.range_eq_range'] at all
  rw [all, Prod.mk.injEq]
  refine ⟨List.map_congr_left fun i mem => ?_, rfl⟩
  simp [List.mem_range.1 mem]

/-- A buffer whose indices fail their checks stops at the first core its mask selects,
before it writes anything. -/
theorem JobIOBuffer.programCores_refused (b : JobIOBuffer) (bad : ¬(b.segIdx < 4 ∧ b.ctrlIdx ≤ 1))
    (secs : List SegMMUConfig) : ∀ cores : List Nat,
      (∃ core ∈ cores, b.coreIdMask.testBit core) → b.programCores secs cores = (secs, false)
  | [], ⟨_, mem, _⟩ => absurd mem (List.not_mem_nil _)
  | core :: cores, ⟨k, mem, sel⟩ => by
    rw [programCores]
    by_cases selCore : b.coreIdMask.testBit core
    · rw [if_neg (by rw [b.skips_iff]; simp [selCore])]
      split_ifs with seg ctrl
      · exact absurd ⟨seg, ctrl⟩ bad
      · rfl
      · rfl
    · rw [if_pos ((b.skips_iff core).2 (by simpa using selCore))]
      refine b.programCores_refused bad secs cores ⟨k, ?_, sel⟩
      rcases List.mem_cons.mp mem with rfl | mem
      · exact absurd sel selCore
      · exact mem

/-- The buffer loop applies the buffers up to the first one whose id is refused, and
drops that one and the rest. -/
theorem segmmuBufferLoop_eq (c : Nat) : ∀ (bufs : List JobIOBuffer) (F : Nat → SegMMUConfig),
    segmmuBufferLoop c ((List.range c).map F) bufs =
      (List.range c).map fun i => programFor (bufs.takeWhile fun b => decide (b.Valid c)) i (F i)
  | [], _ => rfl
  | b :: bs, F => by
    rw [segmmuBufferLoop, List.takeWhile_cons]
    by_cases none : b.coreIdMask &&& ((1 <<< c) - 1) = 0
    · have refused : ¬b.Valid c := fun ⟨_, _, i, lt, sel⟩ => by
        rw [(b.selectsNone_iff c).1 none i lt] at sel
        cases sel
      rw [if_pos none, if_neg (by simpa using refused)]
      rfl
    · rw [if_neg none]
      obtain ⟨i, lt, sel⟩ : ∃ i < c, b.coreIdMask.testBit i := by
        by_contra nothing
        push_neg at nothing
        exact none ((b.selectsNone_iff c).2 fun i lt => by simpa using nothing i lt)
      by_cases ok : b.segIdx < 4 ∧ b.ctrlIdx ≤ 1
      · have valid : b.Valid c := ⟨ok.1, by omega, i, lt, sel⟩
        rw [b.programCores_range ok, if_pos (by simpa using valid)]
        exact segmmuBufferLoop_eq c bs _
      · have refused : ¬b.Valid c := fun ⟨seg, ctrl, _⟩ => ok ⟨seg, by omega⟩
        rw [b.programCores_refused ok _ _ ⟨i, List.mem_range.2 lt, sel⟩,
          if_neg (by simpa using refused)]
        rfl

/-! ## `setup_segmmu` as a whole -/

/-- With one record, every core starts from a shared copy of it. -/
theorem segmmuCoreLoop_one (records : List SegMMUConfig) (held : records ≠ []) (c : Nat) :
    segmmuCoreLoop records 1 0 c =
      .ok ((List.range c).map fun _ => (records.getD 0 default).shared) := by
  obtain ⟨cfg, rest, rfl⟩ := List.exists_cons_of_ne_nil held
  rw [segmmuCoreLoop_shared _ List.getElem?_cons_zero c, List.map_const', List.length_range]
  rfl

/-- With more records, core `i` starts from a shared copy of record `i + 1`, and a section
of at most `coreCnt` records is read past its end. -/
theorem segmmuCoreLoop_several (records : List SegMMUConfig) (held : records ≠ []) {num : Nat}
    (several : num ≠ 1) (c : Nat) :
    segmmuCoreLoop records num 0 c =
      if records.length ≤ c then .error (.segmmuConfig records.length)
      else .ok ((List.range c).map fun i => (records.getD (i + 1) default).shared) := by
  have nonempty := List.length_pos.2 held
  rw [segmmuCoreLoop_next records several, Nat.zero_add, Nat.max_eq_right nonempty]
  by_cases past : records.length ≤ c
  · rw [if_pos ⟨past, by omega⟩, if_pos past]
  · rw [if_neg (by omega), if_neg past, List.range'_eq_map_range, List.map_map]
    simp only [Function.comp_def, Nat.add_comm 1]

/-- What `setup_segmmu` gives for a section with records: a fault at the end of the
section when `m_segmmu_num != 1` and the cores outnumber the records after the first;
otherwise, with status success, core `i` has record `(num = 1 ? 0 : i + 1)` made shared
and reprogrammed by the buffers before the first one whose id is refused. -/
theorem setupSegmmu_eq (num : Nat) (records : List SegMMUConfig) (coreCnt : Nat)
    (bufs : List JobIOBuffer) (configured : num ≠ 0) (held : records ≠ []) :
    setupSegmmu num records coreCnt bufs =
      if num ≠ 1 ∧ records.length ≤ coreCnt then .error (.segmmuConfig records.length)
      else .ok ((List.range coreCnt).map (fun i =>
        programFor (bufs.takeWhile fun b => decide (b.Valid coreCnt)) i
          (records.getD (if num = 1 then 0 else i + 1) default).shared), .success) := by
  rw [setupSegmmu, if_neg configured]
  by_cases one : num = 1
  · subst one
    rw [segmmuCoreLoop_one records held, if_neg (by simp)]
    exact congrArg (fun secs => Except.ok (secs, Status.success)) (segmmuBufferLoop_eq _ _ _)
  · rw [segmmuCoreLoop_several records held one]
    by_cases past : records.length ≤ coreCnt
    · rw [if_pos past, if_pos ⟨one, past⟩]
      rfl
    · rw [if_neg past, if_neg (fun h => past h.2)]
      simp only [if_neg one]
      exact congrArg (fun secs => Except.ok (secs, Status.success)) (segmmuBufferLoop_eq _ _ _)

/-- A record whose control words all hold `k`. -/
def filledRecord (k : Nat) : SegMMUConfig := ⟨List.replicate 8 k, 0, 0, List.length_replicate _ _⟩

/-- Two records for two cores: the second core reads past the section. Three records for
two cores: the cores get records 1 and 2. One record, one core, and a buffer whose
`segmmu_idx` is 4: the record is left as it is and the status is success. -/
theorem setupSegmmu_eq_failing_inputs :
    (2 ≠ 0 ∧ [filledRecord 0, filledRecord 1] ≠ [] ∧
      setupSegmmu 2 [filledRecord 0, filledRecord 1] 2 [] = .error (.segmmuConfig 2)) ∧
    (3 ≠ 0 ∧ [filledRecord 0, filledRecord 1, filledRecord 2] ≠ [] ∧
      setupSegmmu 3 [filledRecord 0, filledRecord 1, filledRecord 2] 2 [] =
        .ok ([(filledRecord 1).shared, (filledRecord 2).shared], .success)) ∧
    (1 ≠ 0 ∧ [filledRecord 0] ≠ [] ∧
      setupSegmmu 1 [filledRecord 0] 1 [⟨0x10400, 0x40000⟩] =
        .ok ([(filledRecord 0).shared], .success)) :=
  ⟨⟨by decide, by decide,
      (setupSegmmu_eq 2 _ 2 [] (by decide) (by decide)).trans (by decide)⟩,
    ⟨by decide, by decide,
      (setupSegmmu_eq 3 _ 2 [] (by decide) (by decide)).trans (by decide)⟩,
    ⟨by decide, by decide,
      (setupSegmmu_eq 1 _ 1 _ (by decide) (by decide)).trans (by decide)⟩⟩

end AipuUmd
