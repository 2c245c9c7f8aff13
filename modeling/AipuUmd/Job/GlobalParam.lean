import AipuUmd.Job.Sharing

/-!
# The writes into the model global parameter

Step 0 of `alloc_load_job_buffers`, for a dynamic-shape graph whose shapes are set,
allocates `m_model_global_param` of `m_bglobalparam.size` bytes, copies the section's
8-byte `DS_ModelGlobalParam` header into it, and writes each dim of each configured input,
4 bytes at a time, from the section's `input_shape_offset` on. `allocModelParam` is that
step by its allocation and status; `allocModelParamWrites` adds the writes. The values
written are not kept: nothing in the model reads the buffer.

* `allocModelParamWrites_unchecked`: when every input is configured and the buffer is
  allocated, step 0 succeeds whatever the buffer's size, and its writes stay inside the
  buffer exactly when the header fits and every dim's 4 bytes fit at its offset.
-/

namespace AipuUmd

/-- A write into `m_model_global_param`: `len` bytes at `offset` from its start. -/
structure ParamWrite where
  offset : Nat
  len : Nat
deriving DecidableEq, Repr

/-- The inner loop of step 0 over the dims of one input, `input_shape_offset` at `off`:
each dim is written as 4 bytes at the offset, which then grows by 4 as a `uint32_t`.
Also the offset after the loop. -/
def dimWrites (off : Nat) : List Nat → List ParamWrite × Nat
  | [] => ([], off)
  | _ :: dims =>
    let (ws, off') := dimWrites ((off + 4) % 2 ^ 32) dims
    (⟨off, 4⟩ :: ws, off')

/-- Modelled from the spec: the loop of step 0 over the inputs of the dynamic-shape
configuration, each `none` when `in_config_shape` is false and otherwise its dims. An
input without a shape ends the loop with `AIPU_STATUS_ERROR_NOT_CONFIG_SHAPE`, after the
writes of the inputs before it. -/
def shapeWrites : Nat → List (Option (List Nat)) → List ParamWrite × Status
  | _, [] => ([], .success)
  | _, none :: _ => ([], .notConfigShape)
  | off, some dims :: rest =>
    let (ws, off') := dimWrites off dims
    let (ws', st) := shapeWrites off' rest
    (ws ++ ws', st)

/-- Step 0 of `alloc_load_job_buffers` with its writes, for a global-param section whose
`input_shape_offset` is `inputShapeOffset` and the configuration `cfg`: the job and
status of `allocModelParam`, and the writes into the buffer it allocates. -/
def JobV3_1.allocModelParamWrites (j : JobV3_1) (inputShapeOffset : UInt32)
    (cfg : List (Option (List Nat))) : (JobV3_1 × Status) × List ParamWrite :=
  if j.graph.dynamicShape ∧ j.dynShapeSet ∧ 0 < cfg.length then
    let (mem, modelGlobalParam, st) := j.mem.mallocInto j.graph.globalParamSize j.modelGlobalParam
    let j := { j with mem, modelGlobalParam }
    if st ≠ .success then ((j, st), [])
    else
      let (ws, st) := shapeWrites inputShapeOffset.toNat cfg
      ((j, st), ⟨0, 8⟩ :: ws)
  else ((j, .success), [])

/-- The number of dims the configuration gives, over its configured inputs. -/
def totalDims (cfg : List (Option (List Nat))) : Nat :=
  (cfg.map fun d => (d.getD []).length).sum

/-! ## The writes -/

/-- One input's dims are written at consecutive 4-byte offsets, modulo `2^32`. -/
theorem dimWrites_eq (dims : List Nat) : ∀ off, off < 2 ^ 32 →
    dimWrites off dims =
      ((List.range dims.length).map fun k => ⟨(off + 4 * k) % 2 ^ 32, 4⟩,
        (off + 4 * dims.length) % 2 ^ 32) := by
  induction dims with
  | nil =>
    intro off lt
    simp only [dimWrites, List.length_nil, List.range_zero, List.map_nil, Nat.mul_zero,
      Nat.add_zero, Nat.mod_eq_of_lt lt]
  | cons _ dims ih =>
    intro off lt
    rw [dimWrites, ih _ (Nat.mod_lt _ (by decide)), List.length_cons, List.range_succ_eq_map,
      List.map_cons, List.map_map]
    simp only [Nat.mod_add_mod, Nat.mul_zero, Nat.add_zero, Nat.mod_eq_of_lt lt,
      Function.comp_def, Nat.mul_succ, Nat.add_assoc, Nat.add_comm 4]

/-- When every input is configured, the loop succeeds and writes the dims of all inputs
at consecutive 4-byte offsets from `off`, modulo `2^32`. -/
theorem shapeWrites_configured : ∀ (cfg : List (Option (List Nat))) (off : Nat),
    off < 2 ^ 32 → (∀ d ∈ cfg, d.isSome) →
      shapeWrites off cfg =
        ((List.range (totalDims cfg)).map fun k => ⟨(off + 4 * k) % 2 ^ 32, 4⟩, .success)
  | [], _, _, _ => rfl
  | none :: _, _, _, configured => absurd (configured none (List.mem_cons_self _ _)) (by simp)
  | some dims :: rest, off, lt, configured => by
    rw [shapeWrites, dimWrites_eq dims off lt]
    dsimp only
    rw [shapeWrites_configured rest _ (Nat.mod_lt _ (by decide))
      fun d mem => configured d (List.mem_cons_of_mem _ mem)]
    simp only [totalDims, List.map_cons, List.sum_cons, Option.getD_some, List.range_add,
      List.map_append, List.map_map, Function.comp_def, Nat.mod_add_mod, Nat.mul_add,
      Nat.add_assoc]

/-- The loop's status: success exactly when every input is configured. -/
theorem shapeWrites_status : ∀ (cfg : List (Option (List Nat))) (off : Nat),
    (shapeWrites off cfg).2 = if (cfg.map Option.isSome).all id then .success else .notConfigShape
  | [], _ => rfl
  | none :: _, _ => rfl
  | some dims :: rest, off => by
    rw [shapeWrites]
    exact shapeWrites_status rest _

/-! ## Nothing checks the offsets -/

/-- For a dynamic-shape job on which step 0 goes through, its writes stay inside the
buffer of `m_bglobalparam.size` bytes exactly when the 8-byte header fits and each dim's
4 bytes fit at its offset. Step 0 tests neither: it goes through whatever the size. -/
theorem JobV3_1.allocModelParamWrites_unchecked (j : JobV3_1) (off : UInt32)
    (cfg : List (Option (List Nat))) (dynamic : j.graph.dynamicShape ∧ j.dynShapeSet)
    (hasInputs : 0 < cfg.length) (proceeds : (j.allocModelParamWrites off cfg).1.2 = .success) :
    (∀ w ∈ (j.allocModelParamWrites off cfg).2, w.offset + w.len ≤ j.graph.globalParamSize) ↔
      8 ≤ j.graph.globalParamSize ∧
        ∀ k < totalDims cfg, (off.toNat + 4 * k) % 2 ^ 32 + 4 ≤ j.graph.globalParamSize := by
  unfold JobV3_1.allocModelParamWrites at proceeds ⊢
  rw [if_pos ⟨dynamic.1, dynamic.2, hasInputs⟩] at proceeds ⊢
  rcases alloc : j.mem.mallocInto j.graph.globalParamSize j.modelGlobalParam with ⟨mem, buf, st⟩
  rw [alloc] at proceeds
  dsimp only at proceeds ⊢
  by_cases failed : st ≠ .success
  · rw [if_pos failed] at proceeds
    exact absurd proceeds failed
  rw [if_neg failed] at proceeds ⊢
  have status := shapeWrites_status cfg off.toNat
  have loop := shapeWrites_configured cfg off.toNat off.val.isLt
  rcases writes : shapeWrites off.toNat cfg with ⟨ws, st'⟩
  rw [writes] at status loop proceeds
  dsimp only at status proceeds ⊢
  have configured : ∀ d ∈ cfg, d.isSome := by
    by_contra unset
    rw [proceeds, if_neg (by simpa only [List.all_eq_true, List.forall_mem_map, id] using unset)]
      at status
    cases status
  obtain ⟨rfl, -⟩ := Prod.mk.inj (loop configured)
  simp only [List.forall_mem_cons, List.forall_mem_map, List.mem_range, Nat.zero_add]

/-- Scenario E3 made a dynamic-shape graph whose global-param section is the 8-byte
header alone. -/
def headerOnlyGraph : Graph := { e3Graph with dynamicShape := true, globalParamSize := 8 }

/-- A job of `headerOnlyGraph` with its one input's shape set. -/
def headerOnlyJob : JobV3_1 :=
  JobV3_1.create headerOnlyGraph true [] true [true] .fresh (.once 0)

/-- The shape of scenario E5's input. -/
def e5Shape : List (Option (List Nat)) := [some [1, 3, 224, 224]]

theorem allocModelParamWrites_unchecked_e5_shape :
    (headerOnlyJob.graph.dynamicShape ∧ headerOnlyJob.dynShapeSet) ∧ 0 < e5Shape.length ∧
      (headerOnlyJob.allocModelParamWrites 8 e5Shape).1.2 = .success ∧
      ((∀ w ∈ (headerOnlyJob.allocModelParamWrites 8 e5Shape).2,
          w.offset + w.len ≤ headerOnlyJob.graph.globalParamSize) ↔
        8 ≤ headerOnlyJob.graph.globalParamSize ∧ ∀ k < totalDims e5Shape,
          ((8 : UInt32).toNat + 4 * k) % 2 ^ 32 + 4 ≤ headerOnlyJob.graph.globalParamSize) ∧
      (headerOnlyJob.allocModelParamWrites 8 e5Shape).2 =
        [⟨0, 8⟩, ⟨8, 4⟩, ⟨12, 4⟩, ⟨16, 4⟩, ⟨20, 4⟩] :=
  ⟨⟨rfl, rfl⟩, by decide, rfl,
    JobV3_1.allocModelParamWrites_unchecked _ _ _ ⟨rfl, rfl⟩ (by decide) rfl, rfl⟩

end AipuUmd
