import AipuUmd.Job.Chain
import AipuUmd.Job.Unwind

/-!
# The emulation dump

`JobV3_1::dump_for_emulation` writes `runtime.cfg`, the files an emulator loads, and
`metadata.txt`, a decode of the job's TCBs.

`metadata.txt` reads back each of the `m_tot_tcb_cnt` TCBs and prints the fields of its
type. For a group-init TCB it prints eight segment-control pairs and four ASID pairs, but
it indexes `segmmu_seg_ctrl[16]` and `asids[8]` with the TCB's index `i` where the record's
own element is the loop's `j`. A read past either array is modelled as a fault.

* `metadataLoop_error_iff`: the decode faults exactly at the first group-init TCB whose
  index is 4 or more.
* `JobV3_1.metadata_decode_by_tcb_index`: after `init`, the group-init TCBs sit at slots
  `1 + 5 k`. The decode faults at slot 6 exactly when the job has two subgraphs or more,
  and a job of one subgraph prints segment 1's controls and ASID pair 1 eight and four
  times.
-/

namespace AipuUmd

/-! ## Reading a TCB back -/

/-- A `tcb_t` as `dump_for_emulation` reads it back: its 32 words. -/
structure TcbWords where
  words : List Nat
  length_eq : words.length = 32
deriving DecidableEq

/-- Word `k` of the TCB. -/
def TcbWords.word (r : TcbWords) (k : Nat) : Nat := r.words.getD k 0

/-- The low `uint16_t` of word `k`. -/
def TcbWords.lo (r : TcbWords) (k : Nat) : Nat := r.word k % 2 ^ 16

/-- The high `uint16_t` of word `k`. -/
def TcbWords.hi (r : TcbWords) (k : Nat) : Nat := r.word k / 2 ^ 16 % 2 ^ 16

/-- `tcb.flag`, word 0. -/
def TcbWords.flag (r : TcbWords) : Nat := r.word 0

/-- Element `n` of the array of `len` words at word `off` of TCB `i`; an index past the
array is a read out of its bounds. -/
def TcbWords.elem (r : TcbWords) (i off len n : Nat) : Except Fault Nat :=
  if n < len then pure (r.word (off + n)) else throw (.tcbArrayIndex i)

/-- `tcb.segmmu_seg_ctrl[n]`: 16 words from word 6 of a group-init TCB. -/
def TcbWords.segmmuSegCtrl (r : TcbWords) (i n : Nat) : Except Fault Nat := r.elem i 6 16 n

/-- `tcb.asids[n]`: 8 words from word 22 of a group-init TCB. -/
def TcbWords.asids (r : TcbWords) (i n : Nat) : Except Fault Nat := r.elem i 22 8 n

/-- The lines of grid-init TCB `i`. -/
def TcbWords.gridInitLines (r : TcbWords) (i : Nat) : List (String × Nat) :=
  [("***GRID INIT TCB", i), ("flag", r.flag), ("group_num", r.word 2),
    ("grid_intrrupt_en", r.word 4), ("grid_groupid", r.lo 5), ("grid_gridid", r.hi 5),
    ("gm_ctrl", r.word 12), ("gm_sync", r.word 13), ("gm_addr_low", r.word 14),
    ("gm_addr_high", r.word 15)]

/-- The lines of group-init TCB `i` before its segments. -/
def TcbWords.groupInitHead (r : TcbWords) (i : Nat) : List (String × Nat) :=
  [("***GROUP INIT TCB", i), ("flag", r.flag), ("segmmu_ctrl", r.word 1),
    ("segmmu_remap_ctrl0", r.word 2), ("segmmu_remap_ctrl1", r.word 3),
    ("group_interrupt_en", r.word 4), ("group_groupid", r.lo 5), ("group_gridid", r.hi 5)]

/-- The labels of segment `j`'s two controls. -/
def segLabels (j : Nat) : String × String :=
  ("segmmu_seg" ++ toString j ++ "_ctrl0", "segmmu_seg" ++ toString j ++ "_ctrl1")

/-- The labels of ASID `j`'s two halves. -/
def asidLabels (j : Nat) : String × String :=
  ("ASID" ++ toString j ++ "_LO", "ASID" ++ toString j ++ "_HI")

/-- The lines of group-init TCB `i`: the segment loop prints `segmmu_seg_ctrl[2 * i]` and
`segmmu_seg_ctrl[2 * i + 1]` for each `j < 8`, the ASID loop `asids[2 * i]` and
`asids[2 * i + 1]` for each `j < 4`. -/
def TcbWords.groupInitLines (r : TcbWords) (i : Nat) : Except Fault (List (String × Nat)) := do
  let segs ← (List.range 8).mapM fun j => do
    let ctrl0 ← r.segmmuSegCtrl i (2 * i)
    let ctrl1 ← r.segmmuSegCtrl i (2 * i + 1)
    pure [((segLabels j).1, ctrl0), ((segLabels j).2, ctrl1)]
  let ids ← (List.range 4).mapM fun j => do
    let low ← r.asids i (2 * i)
    let high ← r.asids i (2 * i + 1)
    pure [((asidLabels j).1, low), ((asidLabels j).2, high)]
  pure (r.groupInitHead i ++ segs.flatten ++ ids.flatten)

/-- The lines of task TCB `i`. -/
def TcbWords.taskLines (r : TcbWords) (i : Nat) : List (String × Nat) :=
  [("***TASK TCB", i), ("flag", r.flag), ("start_pc", r.word 3), ("interrupt_en", r.word 4),
    ("group_id", r.lo 5), ("grid_id", r.hi 5), ("task_id", r.lo 6), ("warm_len", r.hi 6),
    ("grid_dim_x", r.lo 7), ("grid_dim_y", r.hi 7), ("grid_dim_z", r.lo 8),
    ("group_dim_x", r.hi 8), ("group_dim_y", r.lo 9), ("group_dim_z", r.hi 9),
    ("group_id_x", r.lo 10), ("group_id_y", r.hi 10), ("group_id_z", r.lo 11),
    ("task_id_x", r.hi 11), ("task_id_y", r.lo 12), ("task_id_z", r.hi 12),
    ("sp", r.word 13), ("pp", r.word 14), ("dp", r.word 15), ("cp", r.word 16),
    ("pprint", r.word 17), ("pprofiler", r.word 18), ("dsize", r.word 26), ("tcbp", r.word 27),
    ("group_deps[0]", r.lo 30), ("group_deps[1]", r.hi 30), ("group_deps[2]", r.lo 31),
    ("group_deps[3]", r.hi 31)]

/-- The lines of TCB `i`, by the task type of its flag; a TCB of another type is only
logged as invalid. -/
def TcbWords.lines (r : TcbWords) (i : Nat) : Except Fault (List (String × Nat)) :=
  if tcbFlagTaskType r.flag = tcbFlagTaskTypeGridInit then pure (r.gridInitLines i)
  else if tcbFlagTaskType r.flag = tcbFlagTaskTypeGroupInit then r.groupInitLines i
  else if tcbFlagTaskType r.flag = tcbFlagTaskTypeTask then pure (r.taskLines i)
  else pure []

/-- The TCB loop of the decode, from TCB `i` on. -/
def metadataLoop : Nat → List TcbWords → Except Fault (List (String × Nat))
  | _, [] => pure []
  | i, r :: rest => do
    let here ← r.lines i
    let more ← metadataLoop (i + 1) rest
    pure (here ++ more)

/-- The TCB part of `metadata.txt`: the count, then the TCBs read from the buffer. -/
def metadataTcbs (tcbs : List TcbWords) : Except Fault (List (String × Nat)) := do
  let lines ← metadataLoop 0 tcbs
  pure (("Total TCBs Count", tcbs.length) :: lines)

/-! ## Where the decode faults -/

/-- Whether a TCB is of the group-init type. -/
def TcbWords.isGroupInit (r : TcbWords) : Prop :=
  tcbFlagTaskType r.flag = tcbFlagTaskTypeGroupInit

/-- Reads inside the array go through. -/
theorem TcbWords.elem_of_lt (r : TcbWords) {i off len n : Nat} (lt : n < len) :
    r.elem i off len n = .ok (r.word (off + n)) :=
  if_pos lt

/-- Reads past the array fault. -/
theorem TcbWords.elem_of_le (r : TcbWords) {i off len n : Nat} (le : len ≤ n) :
    r.elem i off len n = .error (.tcbArrayIndex i) :=
  if_neg (Nat.not_lt.mpr le)

/-- The lines of group-init TCB `i` below 4: its head, then segment `2 i, 2 i + 1`'s
controls and ASID pair `i` under every label. -/
theorem TcbWords.groupInitLines_of_lt (r : TcbWords) {i : Nat} (lt : i < 4) :
    r.groupInitLines i = .ok (r.groupInitHead i ++
      (List.range 8).flatMap (fun j => [((segLabels j).1, r.word (6 + 2 * i)),
        ((segLabels j).2, r.word (6 + (2 * i + 1)))]) ++
      (List.range 4).flatMap (fun j => [((asidLabels j).1, r.word (22 + 2 * i)),
        ((asidLabels j).2, r.word (22 + (2 * i + 1)))])) := by
  simp only [TcbWords.groupInitLines, TcbWords.segmmuSegCtrl, TcbWords.asids,
    r.elem_of_lt (show 2 * i < 16 by omega), r.elem_of_lt (show 2 * i + 1 < 16 by omega),
    r.elem_of_lt (show 2 * i < 8 by omega), r.elem_of_lt (show 2 * i + 1 < 8 by omega)]
  rfl

/-- A group-init TCB at index 4 or more is decoded past one of its arrays. -/
theorem TcbWords.groupInitLines_of_le (r : TcbWords) {i : Nat} (le : 4 ≤ i) :
    r.groupInitLines i = .error (.tcbArrayIndex i) := by
  by_cases seg : 2 * i + 1 < 16
  · simp only [TcbWords.groupInitLines, TcbWords.segmmuSegCtrl, TcbWords.asids,
      r.elem_of_lt (show 2 * i < 16 by omega), r.elem_of_lt seg,
      r.elem_of_le (show 8 ≤ 2 * i by omega)]
    rfl
  · simp only [TcbWords.groupInitLines, TcbWords.segmmuSegCtrl,
      r.elem_of_le (show 16 ≤ 2 * i by omega)]
    rfl

/-- The decode of one TCB faults exactly when it is a group-init TCB at index 4 or more. -/
theorem TcbWords.lines_error_iff (r : TcbWords) (i : Nat) (e : Fault) :
    r.lines i = .error e ↔ r.isGroupInit ∧ 4 ≤ i ∧ e = .tcbArrayIndex i := by
  unfold TcbWords.lines TcbWords.isGroupInit
  by_cases grid : tcbFlagTaskType r.flag = tcbFlagTaskTypeGridInit
  · rw [if_pos grid, grid]
    exact iff_of_false nofun fun h => absurd h.1 (by decide)
  rw [if_neg grid]
  by_cases group : tcbFlagTaskType r.flag = tcbFlagTaskTypeGroupInit
  · rw [if_pos group]
    by_cases lt : i < 4
    · rw [r.groupInitLines_of_lt lt]
      exact iff_of_false nofun fun h => absurd h.2.1 (by omega)
    · rw [r.groupInitLines_of_le (by omega), Except.error.injEq]
      exact ⟨fun h => ⟨group, by omega, h.symm⟩, fun h => h.2.2.symm⟩
  rw [if_neg group]
  refine iff_of_false ?_ fun h => group h.1
  split <;> rintro ⟨⟩

/-- Past a TCB that decodes, the first group-init TCB at 4 or more is the first of the
rest. -/
theorem firstLateGroupInit_cons {r : TcbWords} {rest : List TcbWords} {i : Nat} {e : Fault}
    (good : r.isGroupInit → i < 4) :
    (∃ k r', (r :: rest)[k]? = some r' ∧ r'.isGroupInit ∧ 4 ≤ i + k ∧
        e = .tcbArrayIndex (i + k) ∧
        ∀ k' < k, ∀ r'', (r :: rest)[k']? = some r'' → r''.isGroupInit → i + k' < 4) ↔
      ∃ k r', rest[k]? = some r' ∧ r'.isGroupInit ∧ 4 ≤ i + 1 + k ∧
        e = .tcbArrayIndex (i + 1 + k) ∧
        ∀ k' < k, ∀ r'', rest[k']? = some r'' → r''.isGroupInit → i + 1 + k' < 4 := by
  constructor
  · rintro ⟨(_ | k), r', at_k, group, le, rfl, before⟩
    · rw [List.getElem?_cons_zero, Option.some.injEq] at at_k
      subst at_k
      exact absurd (good group) (by omega)
    · rw [List.getElem?_cons_succ] at at_k
      refine ⟨k, r', at_k, group, by omega, congrArg _ (by omega), fun k' lt r'' at_k' group' => ?_⟩
      have := before (k' + 1) (by omega) r'' (by rwa [List.getElem?_cons_succ]) group'
      omega
  · rintro ⟨k, r', at_k, group, le, rfl, before⟩
    refine ⟨k + 1, r', by rwa [List.getElem?_cons_succ], group, by omega, congrArg _ (by omega), ?_⟩
    rintro (_ | k') lt r'' at_k' group'
    · rw [List.getElem?_cons_zero, Option.some.injEq] at at_k'
      subst at_k'
      exact good group'
    · rw [List.getElem?_cons_succ] at at_k'
      have := before k' (by omega) r'' at_k' group'
      omega

/-- The decode faults exactly at the first group-init TCB whose index is 4 or more. -/
theorem metadataLoop_error_iff :
    ∀ (tcbs : List TcbWords) (i : Nat) (e : Fault),
      metadataLoop i tcbs = .error e ↔
        ∃ k r, tcbs[k]? = some r ∧ r.isGroupInit ∧ 4 ≤ i + k ∧ e = .tcbArrayIndex (i + k) ∧
          ∀ k' < k, ∀ r', tcbs[k']? = some r' → r'.isGroupInit → i + k' < 4
  | [], i, e => by simp [metadataLoop, pure, Except.pure]
  | r :: rest, i, e => by
    unfold metadataLoop
    rcases here : r.lines i with e' | lines
    · have bad := (r.lines_error_iff i e').mp here
      simp only [bind, Except.bind, Except.error.injEq]
      constructor
      · rintro rfl
        exact ⟨0, r, List.getElem?_cons_zero, bad.1, bad.2.1, bad.2.2, nofun⟩
      · rintro ⟨(_ | k), r', at_k, -, -, rfl, before⟩
        · rw [List.getElem?_cons_zero, Option.some.injEq] at at_k
          subst at_k
          exact bad.2.2
        · exact absurd (before 0 k.succ_pos r List.getElem?_cons_zero bad.1) (by omega)
    · have good : r.isGroupInit → i < 4 := fun group => Nat.not_le.mp fun le => by
        have faults := (r.lines_error_iff i (.tcbArrayIndex i)).mpr ⟨group, le, rfl⟩
        rw [here] at faults
        cases faults
      rw [firstLateGroupInit_cons good, ← metadataLoop_error_iff rest (i + 1) e]
      rcases metadataLoop (i + 1) rest with e'' | lines' <;>
        simp [bind, Except.bind, pure, Except.pure]

/-- What the decode prints for one TCB is among what it prints for the buffer. -/
theorem metadataLoop_mem :
    ∀ (tcbs : List TcbWords) (i : Nat) {lines : List (String × Nat)},
      metadataLoop i tcbs = .ok lines → ∀ {k : Nat} {r : TcbWords} {here : List (String × Nat)},
        tcbs[k]? = some r → r.lines (i + k) = .ok here → ∀ x ∈ here, x ∈ lines
  | [], _, _, _, _, _, _, at_k, _ => by simp at at_k
  | r :: rest, i, lines, ok, k, r', here, at_k, decoded => by
    unfold metadataLoop at ok
    rcases first : r.lines i with e | lines₀ <;> rw [first] at ok
    · cases ok
    rcases loop : metadataLoop (i + 1) rest with e | lines₁ <;> rw [loop] at ok
    · cases ok
    cases ok
    cases k with
    | zero =>
      obtain rfl := (Option.some.inj (List.getElem?_cons_zero.symm.trans at_k)).symm
      rw [Nat.add_zero, first, Except.ok.injEq] at decoded
      subst decoded
      exact fun x mem => List.mem_append_left _ mem
    | succ k =>
      rw [List.getElem?_cons_succ] at at_k
      rw [show i + (k + 1) = i + 1 + k by omega] at decoded
      exact fun x mem => List.mem_append_right _ (metadataLoop_mem rest (i + 1) loop at_k decoded x mem)

/-! ## The decode of the chain `init` writes -/

/-- The flag word of a TCB as the chain writes it. -/
def Tcb.flag : Tcb → Nat
  | .gridInit flag .. => flag
  | .groupInit flag .. => flag
  | .task r => r.flag

/-- The record at a slot of a chain that writes each slot once, in order. -/
theorem getElem?_slot {ws : List (Nat × Tcb)} {n k : Nat} {t : Tcb}
    (slots : ws.map Prod.fst = List.range n) (mem : (k, t) ∈ ws) : ws[k]? = some (k, t) := by
  obtain ⟨i, lt, at_i⟩ := List.getElem_of_mem mem
  have at_i_slot := congrArg (·[i]?) slots
  have short : i < n := by
    rw [← List.length_range n, ← slots, List.length_map]
    exact lt
  simp only [List.getElem?_map, List.getElem?_eq_getElem lt, at_i, Option.map_some',
    List.getElem?_range short, Option.some.injEq] at at_i_slot
  subst at_i_slot
  rw [List.getElem?_eq_getElem lt, at_i]

/-- In a chain of `S` groups of four tasks, the TCB at slot `k` is of the grid-init type
at slot 0, of the group-init type at the slots `1 + 5 m`, and a task elsewhere. -/
theorem ChainLayout.taskType_at {ws : List (Nat × Tcb)} {env : ChainEnv} {S start : Nat}
    (layout : ChainLayout ws env S 4 start) {k : Nat} (lt : k < 1 + S * (4 + 1)) :
    ∃ t, ws[k]? = some (k, t) ∧ tcbFlagTaskType t.flag =
      if k = 0 then tcbFlagTaskTypeGridInit
      else if k % 5 = 1 then tcbFlagTaskTypeGroupInit else tcbFlagTaskTypeTask := by
  by_cases grid : k = 0
  · subst grid
    obtain ⟨flag, head, type⟩ := layout.gridInit
    exact ⟨_, by rw [← List.head?_eq_getElem?, head], by rw [if_pos rfl]; exact type⟩
  rw [if_neg grid]
  by_cases group : k % 5 = 1
  · obtain ⟨⟨flag, deps, mem, type, -⟩, -⟩ := layout.groups (k / 5) (by omega)
    rw [show groupInitSlot 4 (k / 5) = k by rw [groupInitSlot]; omega] at mem
    exact ⟨_, getElem?_slot layout.slots mem, by rw [if_pos group]; exact type⟩
  · obtain ⟨-, tasks⟩ := layout.groups ((k - 2) / 5) (by omega)
    obtain ⟨r, mem, spec⟩ := tasks ((k - 2) % 5) (by omega)
    rw [show taskTcbSlot 4 ((k - 2) / 5) ((k - 2) % 5) = k by rw [taskTcbSlot]; omega] at mem
    exact ⟨_, getElem?_slot layout.slots mem, by rw [if_neg group]; exact spec.task⟩

/-- A buffer that holds the flags of a chain of `S` groups holds its `1 + 5 S` TCBs. -/
theorem ChainLayout.length_of_flags {ws : List (Nat × Tcb)} {env : ChainEnv} {S start : Nat}
    (layout : ChainLayout ws env S 4 start) {tcbs : List TcbWords}
    (flags : tcbs.map TcbWords.flag = ws.map fun w => w.2.flag) :
    tcbs.length = 1 + S * (4 + 1) := by
  rw [← List.length_map tcbs TcbWords.flag, flags, List.length_map, ← List.length_map ws Prod.fst,
    layout.slots, List.length_range]

/-- A buffer that holds the chain's flags holds a group-init TCB at slot `k` exactly at
the slots `1 + 5 m` of the chain. -/
theorem ChainLayout.isGroupInit_iff {ws : List (Nat × Tcb)} {env : ChainEnv} {S start : Nat}
    (layout : ChainLayout ws env S 4 start) {tcbs : List TcbWords}
    (flags : tcbs.map TcbWords.flag = ws.map fun w => w.2.flag) {k : Nat} {r : TcbWords}
    (at_k : tcbs[k]? = some r) : r.isGroupInit ↔ k ≠ 0 ∧ k % 5 = 1 := by
  have lt : k < 1 + S * (4 + 1) :=
    layout.length_of_flags flags ▸ (List.getElem?_eq_some_iff.mp at_k).1
  obtain ⟨t, at_slot, type⟩ := layout.taskType_at lt
  have flag : r.flag = t.flag := by
    have := congrArg (·[k]?) flags
    simp only [List.getElem?_map, at_k, at_slot, Option.map_some', Option.some.injEq] at this
    exact this
  rw [TcbWords.isGroupInit, flag, type]
  split_ifs <;> simp_all [tcbFlagTaskTypeGridInit, tcbFlagTaskTypeGroupInit, tcbFlagTaskTypeTask]

theorem metadataTcbs_error_iff (tcbs : List TcbWords) (e : Fault) :
    metadataTcbs tcbs = .error e ↔ metadataLoop 0 tcbs = .error e := by
  unfold metadataTcbs
  rcases metadataLoop 0 tcbs with e' | lines <;> simp [bind, Except.bind, pure, Except.pure]

section Decode

variable {ws : List (Nat × Tcb)} {env : ChainEnv} {S start : Nat} {tcbs : List TcbWords}

/-- The decode of a buffer holding the flags of a chain of `S` groups faults exactly when
`S` is 2 or more, at slot 6: the group-init TCBs sit at `1 + 5 m`, and 6 is the first of
them at 4 or more. -/
theorem ChainLayout.decode_error_iff (layout : ChainLayout ws env S 4 start)
    (flags : tcbs.map TcbWords.flag = ws.map fun w => w.2.flag) (e : Fault) :
    metadataLoop 0 tcbs = .error e ↔ 2 ≤ S ∧ e = .tcbArrayIndex 6 := by
  have length := layout.length_of_flags flags
  have group : ∀ {k r}, tcbs[k]? = some r → (r.isGroupInit ↔ k ≠ 0 ∧ k % 5 = 1) :=
    layout.isGroupInit_iff flags
  rw [metadataLoop_error_iff]
  constructor
  · rintro ⟨k, r, at_k, isGroup, le, rfl, before⟩
    have slot := (group at_k).mp isGroup
    have short := (List.getElem?_eq_some_iff.mp at_k).1
    have at_6 := List.getElem?_eq_getElem (l := tcbs) (n := 6) (by omega)
    obtain rfl : k = 6 := by
      by_contra other
      have := before 6 (by omega) _ at_6 ((group at_6).mpr ⟨by decide, rfl⟩)
      omega
    exact ⟨by omega, rfl⟩
  · rintro ⟨two, rfl⟩
    have at_6 := List.getElem?_eq_getElem (l := tcbs) (n := 6) (by omega)
    refine ⟨6, _, at_6, (group at_6).mpr ⟨by decide, rfl⟩, by decide, rfl,
      fun k lt r at_k isGroup => ?_⟩
    have := (group at_k).mp isGroup
    omega

/-- A buffer holding the flags of a chain of one group decodes, and prints its group-init
TCB's `segmmu_seg_ctrl[2]` and `[3]` as every segment's controls and `asids[2]` and `[3]`
as every ASID pair. -/
theorem ChainLayout.decode_one (layout : ChainLayout ws env 1 4 start)
    (flags : tcbs.map TcbWords.flag = ws.map fun w => w.2.flag) :
    ∃ lines r, metadataTcbs tcbs = .ok lines ∧ tcbs[1]? = some r ∧
      (∀ n < 8, ((segLabels n).1, r.word 8) ∈ lines ∧ ((segLabels n).2, r.word 9) ∈ lines) ∧
      ∀ n < 4, ((asidLabels n).1, r.word 24) ∈ lines ∧ ((asidLabels n).2, r.word 25) ∈ lines := by
  have length := layout.length_of_flags flags
  rcases decoded : metadataLoop 0 tcbs with e | lines
  · exact absurd ((layout.decode_error_iff flags e).mp decoded).1 (by decide)
  have at_1 := List.getElem?_eq_getElem (l := tcbs) (n := 1) (by omega)
  have group := (layout.isGroupInit_iff flags at_1).mpr ⟨by decide, rfl⟩
  have printed : tcbs[1].lines (0 + 1) = tcbs[1].groupInitLines 1 := by
    rw [TcbWords.lines, if_neg (fun grid => by rw [TcbWords.isGroupInit, grid] at group; cases group),
      if_pos (show tcbFlagTaskType tcbs[1].flag = tcbFlagTaskTypeGroupInit from group)]
  rw [tcbs[1].groupInitLines_of_lt (by decide)] at printed
  have mem := metadataLoop_mem tcbs 0 decoded at_1 printed
  have segs : ∀ x ∈ (List.range 8).flatMap fun n =>
      [((segLabels n).1, tcbs[1].word 8), ((segLabels n).2, tcbs[1].word 9)],
      x ∈ ("Total TCBs Count", tcbs.length) :: lines := fun x printedSeg =>
    List.mem_cons_of_mem _ (mem x (List.mem_append_left _ (List.mem_append_right _ printedSeg)))
  have ids : ∀ x ∈ (List.range 4).flatMap fun n =>
      [((asidLabels n).1, tcbs[1].word 24), ((asidLabels n).2, tcbs[1].word 25)],
      x ∈ ("Total TCBs Count", tcbs.length) :: lines := fun x printedId =>
    List.mem_cons_of_mem _ (mem x (List.mem_append_right _ printedId))
  refine ⟨_, _, by rw [metadataTcbs, decoded]; rfl, at_1,
    fun n lt => ⟨segs _ ?_, segs _ ?_⟩, fun n lt => ⟨ids _ ?_, ids _ ?_⟩⟩ <;>
    exact List.mem_flatMap.mpr ⟨n, List.mem_range.mpr lt, by simp⟩

end Decode

/-- After a successful `init`, with any contents in the TCB buffer besides the flags the
chain wrote, the decode of `metadata.txt` faults exactly when the job has two subgraphs
or more, at slot 6, the second group-init TCB, whose ASID reads go past `asids[8]`. A job
of one subgraph decodes, and prints its one group-init TCB's `segmmu_seg_ctrl[2]` and
`[3]` as every segment's controls and `asids[2]` and `[3]` as every ASID pair. -/
theorem JobV3_1.metadata_decode_by_tcb_index {j j' : JobV3_1} (ok : j.init = .ok (j', .success))
    {env : ChainEnv} {ws : List (Nat × Tcb)} (chain : j'.setupTcbChainWrites env = .ok (ws, .success))
    (tcbs : List TcbWords) (flags : tcbs.map TcbWords.flag = ws.map fun w => w.2.flag) :
    (∀ e, metadataTcbs tcbs = .error e ↔ 2 ≤ j.graph.subgraphCnt ∧ e = .tcbArrayIndex 6) ∧
      (j.graph.subgraphCnt = 1 → ∃ lines r, metadataTcbs tcbs = .ok lines ∧ tcbs[1]? = some r ∧
        (∀ n < 8, ((segLabels n).1, r.word 8) ∈ lines ∧ ((segLabels n).2, r.word 9) ∈ lines) ∧
        ∀ n < 4, ((asidLabels n).1, r.word 24) ∈ lines ∧ ((asidLabels n).2, r.word 25) ∈ lines) := by
  obtain ⟨graph, sgCnt, four⟩ := JobV3_1.init_params ok
  have layout := JobV3_1.setupTcbChainWrites_layout chain (by rw [graph, sgCnt])
  rw [sgCnt, four] at layout
  refine ⟨fun e => (metadataTcbs_error_iff tcbs e).trans (layout.decode_error_iff flags e),
    fun one => ?_⟩
  rw [one] at layout
  exact layout.decode_one flags

/-- A TCB read back whose flag is `flag`, whose segment controls are `0, …, 15` and whose
other words are 0. -/
def segWords (flag : Nat) : TcbWords :=
  ⟨flag :: List.replicate 5 0 ++ List.range 16 ++ List.replicate 10 0, by simp⟩

/-- Scenario E3's job, four subgraphs, with its chain's flags in the TCB buffer: the
decode faults at slot 6. A job of one subgraph decodes, and prints segment 1's control
2 under the label of segment 0, whose own control is 0. -/
theorem metadata_decode_faults_e3_and_misprints_one :
    (∃ j ws, (JobV3_1.create e3Graph true [] false [] .fresh (.once 0)).init = .ok (j, .success) ∧
      j.setupTcbChainWrites ⟨0, 0⟩ = .ok (ws, .success) ∧
      metadataTcbs (ws.map fun w => segWords w.2.flag) = .error (.tcbArrayIndex 6)) ∧
    ∃ j ws lines, (JobV3_1.create oneBssGraph true [] false [] .fresh (.once 0)).init =
        .ok (j, .success) ∧ j.setupTcbChainWrites ⟨0, 0⟩ = .ok (ws, .success) ∧
      metadataTcbs (ws.map fun w => segWords w.2.flag) = .ok lines ∧
      ((segLabels 0).1, 2) ∈ lines ∧ (segWords 0).word 6 = 0 := by
  constructor
  · obtain ⟨j', ws, ok, chain⟩ : ∃ j' ws,
        (JobV3_1.create e3Graph true [] false [] .fresh (.once 0)).init = .ok (j', .success) ∧
          j'.setupTcbChainWrites ⟨0, 0⟩ = .ok (ws, .success) := ⟨_, _, rfl, rfl⟩
    exact ⟨j', ws, ok, chain, ((JobV3_1.metadata_decode_by_tcb_index ok chain _
      (by rw [List.map_map]; rfl)).1 _).mpr ⟨by decide, rfl⟩⟩
  · obtain ⟨j', ws, ok, chain⟩ : ∃ j' ws,
        (JobV3_1.create oneBssGraph true [] false [] .fresh (.once 0)).init = .ok (j', .success) ∧
          j'.setupTcbChainWrites ⟨0, 0⟩ = .ok (ws, .success) := ⟨_, _, rfl, rfl⟩
    obtain ⟨lines, r, decoded, at_1, segs, -⟩ := (JobV3_1.metadata_decode_by_tcb_index ok chain
      (ws.map fun w => segWords w.2.flag) (by rw [List.map_map]; rfl)).2 rfl
    rw [List.getElem?_map] at at_1
    obtain ⟨w, -, rfl⟩ := Option.map_eq_some'.mp at_1
    exact ⟨j', ws, lines, ok, chain, decoded, (segs 0 (by decide)).1, rfl⟩

/-! ## `runtime.cfg` -/

/-- A buffer as the dump reads it: `pa`, `size` and `req_size`. -/
structure DumpBuffer where
  pa : Nat
  size : Nat
  reqSize : Nat
deriving DecidableEq, Repr

/-- `get_WeightBufferInfo(bss_id)`: `wb_weight`, `wb_zerocpy_const` and `wb_weights`. -/
structure WeightBufferInfo where
  wbWeight : Option DumpBuffer
  wbZerocpyConst : Option DumpBuffer
  wbWeights : List DumpBuffer
deriving DecidableEq, Repr

/-- An input or output of the job as the dump reads it: `pa`, `size` and
`dump_ignore_flag`. -/
structure DumpTensor where
  pa : Nat
  size : Nat
  dumpIgnore : Bool
deriving DecidableEq, Repr

/-- What the [INPUT] and [OUTPUT] sections read: the text section's address and
`m_btext.size`, `m_bweight.size()` and the weight buffers of each BSS, `m_rodata`,
`m_descriptor`, `m_tcbs->pa`, the inputs and outputs, `m_dump_prefix` and
`m_dump_output_prefix`. -/
structure DumpJob where
  textPa : Nat
  btextSize : Nat
  bweightCnt : Nat
  weightInfo : List WeightBufferInfo
  rodata : Option DumpBuffer
  descriptor : Option DumpBuffer
  tcbsPa : Nat
  inputs : List DumpTensor
  outputs : List DumpTensor
  dumpStem : String
  outputStem : String
deriving DecidableEq, Repr

/-- What one BSS adds to `emu_input_cnt`: one weight file, and one zero-copy file when
its size is not 0, when `wb_weight->size > 0`; otherwise one per `wb_weights`. -/
def WeightBufferInfo.inputCnt (w : WeightBufferInfo) : Nat :=
  match w.wbWeight with
  | some b =>
    if 0 < b.size then 1 + (match w.wbZerocpyConst with
      | some z => if z.size ≠ 0 then 1 else 0
      | none => 0)
    else w.wbWeights.length
  | none => w.wbWeights.length

/-- The files one BSS dumps: the weight, and the zero-copy constants when their size is
positive, when `wb_weight->req_size > 0`; otherwise one per `wb_weights`. -/
def WeightBufferInfo.inputFiles (w : WeightBufferInfo) : List (String × Nat) :=
  match w.wbWeight with
  | some b =>
    if 0 < b.reqSize then (".weight", b.pa) :: (match w.wbZerocpyConst with
      | some z => if 0 < z.size then [(".zerocpy_const", z.pa)] else []
      | none => [])
    else w.wbWeights.map fun b => (".weight", b.pa)
  | none => w.wbWeights.map fun b => (".weight", b.pa)

/-- `emu_input_cnt`: `INIT_NUM = 3`, the inputs, the descriptor when it is allocated,
then what each BSS adds when the graph has weights. -/
def DumpJob.emuInputCnt (d : DumpJob) : Nat :=
  3 + d.inputs.length + (if d.descriptor.isSome then 1 else 0) +
    (if 0 < d.bweightCnt then (d.weightInfo.map WeightBufferInfo.inputCnt).sum else 0)

/-- The files of the [INPUT] section, as the name after the dump's stem and the address:
the text when its size is not 0, the weights, the rodata, the descriptor when it is
allocated with a size, the TCBs, and each input not to be ignored. `m_rodata` is
dereferenced. -/
def DumpJob.inputFiles (d : DumpJob) : Except Fault (List (String × Nat)) := do
  let ro ← match d.rodata with
    | some b => pure (".ro", b.pa)
    | none => throw .nullRodata
  let text := if d.btextSize ≠ 0 then [(".text", d.textPa)] else []
  let weights := if 0 < d.bweightCnt then d.weightInfo.flatMap WeightBufferInfo.inputFiles else []
  let dcr := match d.descriptor with
    | some b => if b.size ≠ 0 then [(".dcr", b.pa)] else []
    | none => []
  let ins := (d.inputs.enum.filter fun e => !e.2.dumpIgnore).map fun e =>
    (".input" ++ toString e.1, e.2.pa)
  pure (text ++ weights ++ ro :: dcr ++ (".tcb", d.tcbsPa) :: ins)

/-- The [INPUT] section: `COUNT=emu_input_cnt`, then per file a `FILE` and a `BASE`
line under `++file_id`, from 0 on. -/
def DumpJob.inputSection (d : DumpJob) : Except Fault (Nat × List (Nat × String × Nat)) := do
  let files ← d.inputFiles
  pure (d.emuInputCnt, files.enum.map fun e => (e.1, d.dumpStem ++ e.2.1, e.2.2))

/-- The name in `FILE<i>` of output `i`: `<prefix>.output<i>` under the default prefix,
which starts with `temp`, else the prefix for output 0 and `<prefix><i>` for the rest. -/
def DumpJob.outputFile (d : DumpJob) (i : Nat) : String :=
  if d.outputStem.take 4 = "temp" then d.outputStem ++ ".output" ++ toString i
  else if i = 0 then d.outputStem else d.outputStem ++ toString i

/-- The [OUTPUT] section: `COUNT=m_outputs.size()`, then per output not to be ignored a
`FILE`, a `BASE` and a `SIZE` line under the output's own index. -/
def DumpJob.outputSection (d : DumpJob) : Nat × List (Nat × String × Nat × Nat) :=
  (d.outputs.length, (d.outputs.enum.filter fun e => !e.2.dumpIgnore).map fun e =>
    (e.1, d.outputFile e.1, e.2.pa, e.2.size))

/-! ## What the counts count -/

/-- The inputs not to be ignored are the inputs less those to be ignored. -/
theorem length_filter_enum_not_ignored (ts : List DumpTensor) :
    (ts.enum.filter fun e => !e.2.dumpIgnore).length + ts.countP (·.dumpIgnore) = ts.length := by
  have kept : (ts.enum.filter fun e => !e.2.dumpIgnore).length = ts.countP fun t => !t.dumpIgnore := by
    rw [← List.countP_eq_length_filter]
    conv_rhs => rw [← List.enum_map_snd ts]
    rw [List.countP_map]
    rfl
  rw [kept, List.length_eq_countP_add_countP (·.dumpIgnore) ts, Nat.add_comm]
  congr 1
  exact List.countP_congr fun t _ => by cases t.dumpIgnore <;> decide

/-- The files of the [INPUT] section, when `m_rodata` is allocated, are one fewer for a
text of size 0 and for a descriptor of size 0, and one fewer per ignored input, than
`COUNT` would say with the files the BSSes dump in place of what they add to it. -/
theorem DumpJob.inputFiles_length (d : DumpJob) {files : List (String × Nat)}
    (ok : d.inputFiles = .ok files) :
    d.emuInputCnt + (if 0 < d.bweightCnt then (d.weightInfo.map fun w => w.inputFiles.length).sum
        else 0) =
      files.length + (if d.btextSize = 0 then 1 else 0) +
        (if d.descriptor.any (·.size = 0) then 1 else 0) + d.inputs.countP (·.dumpIgnore) +
        (if 0 < d.bweightCnt then (d.weightInfo.map WeightBufferInfo.inputCnt).sum else 0) := by
  unfold DumpJob.inputFiles at ok
  rcases ro : d.rodata with _ | b <;> rw [ro] at ok
  · cases ok
  cases ok
  have ins := length_filter_enum_not_ignored d.inputs
  have weights : (if 0 < d.bweightCnt then d.weightInfo.flatMap WeightBufferInfo.inputFiles
      else []).length =
      if 0 < d.bweightCnt then (d.weightInfo.map fun w => w.inputFiles.length).sum else 0 := by
    split
    · simp only [List.flatMap, List.length_flatten, List.map_map, Function.comp_def]
    · rfl
  simp only [DumpJob.emuInputCnt, List.length_append, List.length_cons, List.length_map, weights]
  rcases desc : d.descriptor with _ | c
  · by_cases text : d.btextSize = 0 <;> simp [text] <;> omega
  · by_cases text : d.btextSize = 0 <;> by_cases zero : c.size = 0 <;> simp [text, zero] <;> omega

/-- In `runtime.cfg`, the [INPUT] files are numbered `0, 1, …` in order, and `COUNT`,
with the files the BSSes dump in place of what they add to it, is the number of files
plus one for a text of size 0, one for a descriptor of size 0 and one per ignored input.
The [OUTPUT] entries are the outputs not to be ignored, each under its own index, and
`COUNT` is their number plus the ignored outputs. -/
theorem DumpJob.runtimeCfg_counts (d : DumpJob) {count : Nat}
    {entries : List (Nat × String × Nat)} (ok : d.inputSection = .ok (count, entries)) :
    entries.map Prod.fst = List.range entries.length ∧
      count + (if 0 < d.bweightCnt then (d.weightInfo.map fun w => w.inputFiles.length).sum
          else 0) =
        entries.length + (if d.btextSize = 0 then 1 else 0) +
          (if d.descriptor.any (·.size = 0) then 1 else 0) + d.inputs.countP (·.dumpIgnore) +
          (if 0 < d.bweightCnt then (d.weightInfo.map WeightBufferInfo.inputCnt).sum else 0) ∧
      d.outputSection.1 = d.outputSection.2.length + d.outputs.countP (·.dumpIgnore) ∧
      ∀ e ∈ d.outputSection.2, d.outputs[e.1]? = some ⟨e.2.2.1, e.2.2.2, false⟩ := by
  unfold DumpJob.inputSection at ok
  rcases listed : d.inputFiles with _ | files <;> rw [listed] at ok
  · cases ok
  cases ok
  refine ⟨?_, ?_, ?_, ?_⟩
  · rw [List.map_map, List.length_map, List.enum_length]
    exact List.enum_map_fst files
  · rw [List.length_map, List.enum_length]
    exact d.inputFiles_length listed
  · rw [DumpJob.outputSection, List.length_map]
    exact (length_filter_enum_not_ignored d.outputs).symm
  · simp only [DumpJob.outputSection, List.mem_map, List.mem_filter, Bool.not_eq_true']
    rintro _ ⟨⟨i, t⟩, ⟨mem, kept⟩, rfl⟩
    rw [List.mem_enum_iff_getElem?.mp mem]
    cases t
    cases kept
    rfl

/-- A job whose text section has size 0, with one input and two outputs of which the
first is not dumped. -/
def zeroTextDump : DumpJob where
  textPa := 0x1000
  btextSize := 0
  bweightCnt := 0
  weightInfo := []
  rodata := some ⟨0x2000, 256, 256⟩
  descriptor := none
  tcbsPa := 0x3000
  inputs := [⟨0x4000, 64, false⟩]
  outputs := [⟨0x5000, 64, true⟩, ⟨0x6000, 64, false⟩]
  dumpStem := "temp"
  outputStem := "temp"

/-- [INPUT] says `COUNT=4` over three files, and [OUTPUT] says `COUNT=2` over one entry,
numbered 1. -/
theorem runtime_cfg_counts_skipped_files :
    zeroTextDump.inputSection = .ok (4, [(0, "temp.ro", 0x2000), (1, "temp.tcb", 0x3000),
      (2, "temp.input0", 0x4000)]) ∧
    zeroTextDump.outputSection = (2, [(1, "temp.output1", 0x6000, 64)]) ∧
    ∀ e ∈ zeroTextDump.outputSection.2, zeroTextDump.outputs[e.1]? = some ⟨e.2.2.1, e.2.2.2, false⟩ :=
  have ok : zeroTextDump.inputSection = .ok (4, [(0, "temp.ro", 0x2000), (1, "temp.tcb", 0x3000),
      (2, "temp.input0", 0x4000)]) := rfl
  ⟨ok, rfl, (zeroTextDump.runtimeCfg_counts ok).2.2.2⟩

end AipuUmd
