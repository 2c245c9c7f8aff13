import Mathlib.Algebra.BigOperators.Group.List
import AipuUmd.Job.GlobalParam
import AipuUmd.Parser.Bss

/-!
# Dynamic output shapes

After a dynamic-shape job has run, `JobV3_1::parse_dynamic_out_shape` reads the shape of
each output from device memory into a local `uint32_t data[96]`, multiplies the dims in
a `uint64_t`, refuses a zero product with `AIPU_STATUS_ERROR_ZERO_TENSOR_SIZE`, scales
the product by the bytes of the output's data type and records it as the output's size.
It does this once per job: `testset_dynamic_out_shape_updated` tests and sets a flag
before anything is computed, and no error path clears it.

`DynamicShape`, `aipu_data_type_t` and the two update helpers are not in the repository;
they are modelled from the spec.

* `JobV3_1.parseDynamicOutShape_faults_iff`: the copy into `data` overflows exactly when
  the loop reaches a shape of more than 384 bytes. Nothing compares the binary's size
  with `data`.
* `JobV3_1.parseDynamicOutShape_sizes`: for shapes that fit, the call refuses exactly
  when some product of dims is 0 modulo `2^64`, and otherwise records each product
  times the bytes per element, modulo `2^64`.
* `JobV3_1.dynOutShapeCalls_after_first`: the first call sets the flag whatever it
  returns, and every later call returns SUCCESS and changes nothing.
-/

namespace AipuUmd

/-- Modelled from the spec: `aipu_data_type_t` is not in the repository. The
constructors are the types the spec gives a size, `other` stands for the rest. -/
inductive DataType
  | u8 | s8
  | u16 | s16 | f16 | bf16
  | u32 | s32 | f32
  | other (code : Nat)
deriving DecidableEq, Repr

/-- The shift `parse_dynamic_out_shape` applies to the element count of an output:
`size <<= 1` for the 16-bit types, `size <<= 2` for the 32-bit ones. -/
def DataType.shift : DataType → Nat
  | .u16 | .s16 | .f16 | .bf16 => 1
  | .u32 | .s32 | .f32 => 2
  | _ => 0

/-- The bytes per element the spec gives each type: 2 for U16/S16/F16/BF16, 4 for
U32/S32/F32, 1 otherwise. -/
def DataType.bytesPerElement : DataType → Nat
  | .u16 | .s16 | .f16 | .bf16 => 2
  | .u32 | .s32 | .f32 => 4
  | _ => 1

/-- The shift multiplies by the spec's bytes per element. -/
theorem DataType.two_pow_shift (t : DataType) : 2 ^ t.shift = t.bytesPerElement := by
  cases t <;> rfl

/-- `m_outputs_shape[i]`: where the shape of output `i` lies in device memory, and its
size in bytes, the binary's sub-section `size` (`fill_io_tensor_desc_inner`). -/
structure OutShapeBuffer where
  pa : Nat
  size : Nat
deriving DecidableEq, Repr

/-- `m_outputs[i]` as `parse_dynamic_out_shape` reads and updates it: its data type and
its size. -/
structure OutputBuffer where
  type : DataType
  size : Nat
deriving DecidableEq, Repr

instance : Inhabited OutputBuffer := ⟨⟨.other 0, 0⟩⟩

/-- Modelled from the spec: `DynamicShape` is not in the repository. Its state here is
the flag `testset_dynamic_out_shape_updated` tests and sets (the spec makes the update
idempotent per job), and the calls `set_config_out_tensor_size(i, size)` made since the
last `clear_config_out_tensor_size()`. -/
structure DynamicShape where
  outShapeUpdated : Bool
  configOutTensorSize : List (Nat × Nat)
deriving DecidableEq, Repr

/-- What `parse_dynamic_out_shape` reads and writes besides the fields of `JobV3_1`:
`m_outputs_shape`, `m_outputs` and `*m_dyn_shape`. -/
structure OutShapeState where
  outputsShape : List OutShapeBuffer
  outputs : List OutputBuffer
  dyn : DynamicShape
deriving DecidableEq, Repr

/-- The length of `uint32_t data[96]`. -/
def outShapeDataLen : Nat := 96

/-- The dims `data[j]`, `j < size / 4`, after `m_mem->read(pa, data, size)`: the words
the copy has just written, read from device memory. -/
def OutShapeBuffer.dims (b : OutShapeBuffer) (mem : Nat → UInt8) : List Nat :=
  (List.range (b.size / 4)).map fun k => u32 (bytesAt mem (b.pa + 4 * k) 4)

/-- `size = 1; size *= data[j]` in a `uint64_t`. -/
def elementCount (dims : List Nat) : Nat :=
  dims.foldl (fun size d => size * d % 2 ^ 64) 1

/-- The loop over `m_outputs_shape` from output `i`. A shape larger than `data` makes
the copy overflow it; a zero product clears the recorded sizes and stops the loop. -/
def outShapeLoop (mem : Nat → UInt8) (outputs : List OutputBuffer) :
    Nat → List OutShapeBuffer → DynamicShape → Except Fault (DynamicShape × Status)
  | _, [], dyn => pure (dyn, .success)
  | i, shape :: rest, dyn =>
    if 4 * outShapeDataLen < shape.size then throw (.outShapeData i)
    else
      let size := elementCount (shape.dims mem)
      if size = 0 then pure ({ dyn with configOutTensorSize := [] }, .zeroTensorSize)
      else
        let size := (size <<< (outputs.getD i default).type.shift) % 2 ^ 64
        outShapeLoop mem outputs (i + 1) rest
          { dyn with configOutTensorSize := dyn.configOutTensorSize ++ [(i, size)] }

/-- Modelled from the spec: `update_dynamic_io_tensor_size(AIPU_TENSOR_TYPE_OUTPUT)` and
`update_single_io_buffers` are not in the repository. The spec has them put the
resolved size of each output into its I/O descriptor. -/
def updateOutputSizes (outputs : List OutputBuffer) (sizes : List (Nat × Nat)) :
    List OutputBuffer :=
  sizes.foldl (fun outs e => outs.modify (fun o => { o with size := e.2 }) e.1) outputs

/-- `JobV3_1::parse_dynamic_out_shape`, on the device memory `mem`. -/
def JobV3_1.parseDynamicOutShape (j : JobV3_1) (s : OutShapeState) (mem : Nat → UInt8) :
    Except Fault (OutShapeState × Status) :=
  if j.graph.dynamicShape ∧ j.dynShapeSet ∧ j.configShape.length = j.inputs.length then
    if s.dyn.outShapeUpdated then pure (s, .success)
    else
      let s := { s with dyn := { s.dyn with outShapeUpdated := true } }
      if s.outputsShape.length ≠ s.outputs.length then pure (s, .unmatchOutShape)
      else do
        let (dyn, st) ← outShapeLoop mem s.outputs 0 s.outputsShape s.dyn
        if st ≠ .success then return ({ s with dyn }, st)
        pure ({ s with dyn, outputs := updateOutputSizes s.outputs dyn.configOutTensorSize },
          .success)
  else pure (s, .success)

/-- Calls of `parse_dynamic_out_shape` one after another, the `k`-th on the device
memory `mems[k]`: the state after them and their statuses. -/
def JobV3_1.dynOutShapeCalls (j : JobV3_1) :
    OutShapeState → List (Nat → UInt8) → Except Fault (OutShapeState × List Status)
  | s, [] => pure (s, [])
  | s, mem :: mems => do
    let (s, st) ← j.parseDynamicOutShape s mem
    let (s, sts) ← j.dynOutShapeCalls s mems
    pure (s, st :: sts)

/-! ## The product -/

theorem foldl_mul_mod (m : Nat) :
    ∀ (dims : List Nat) (a : Nat), dims.foldl (fun size d => size * d % m) (a % m) = a * dims.prod % m
  | [], a => by rw [List.foldl_nil, List.prod_nil, Nat.mul_one]
  | d :: dims, a => by
    rw [List.foldl_cons, Nat.mod_mul_mod, foldl_mul_mod m dims, List.prod_cons, Nat.mul_assoc]

/-- The `uint64_t` product is the product of the dims modulo `2^64`. -/
theorem elementCount_eq (dims : List Nat) : elementCount dims = dims.prod % 2 ^ 64 := by
  have := foldl_mul_mod (2 ^ 64) dims 1
  rwa [Nat.mod_eq_of_lt (by decide : 1 < 2 ^ 64), Nat.one_mul] at this

/-! ## The loop -/

section Loop

variable (mem : Nat → UInt8) (outputs : List OutputBuffer)

/-- The sizes the loop records for the shapes `shapes`, numbered from `i`, when it
refuses none of them. -/
def recordedSizes (i : Nat) (shapes : List OutShapeBuffer) : List (Nat × Nat) :=
  (shapes.enumFrom i).map fun e =>
    (e.1, (elementCount (e.2.dims mem) <<< (outputs.getD e.1 default).type.shift) % 2 ^ 64)

/-- When every shape fits `data`, the loop refuses exactly when some product is 0, and
otherwise records the size of every output. -/
theorem outShapeLoop_of_fits : ∀ (shapes : List OutShapeBuffer) (i : Nat) (dyn : DynamicShape),
    (∀ b ∈ shapes, b.size ≤ 4 * outShapeDataLen) →
    outShapeLoop mem outputs i shapes dyn =
      .ok (if shapes.all fun b => elementCount (b.dims mem) ≠ 0 then
          ({ dyn with configOutTensorSize :=
              dyn.configOutTensorSize ++ recordedSizes mem outputs i shapes }, .success)
        else ({ dyn with configOutTensorSize := [] }, .zeroTensorSize))
  | [], _, dyn, _ => by simp [outShapeLoop, recordedSizes, pure, Except.pure]
  | b :: rest, i, dyn, fits => by
    have fit := fits b (List.mem_cons_self _ _)
    rw [outShapeLoop, if_neg (Nat.not_lt.mpr fit)]
    by_cases zero : elementCount (b.dims mem) = 0
    · simp [zero, pure, Except.pure]
    · rw [if_neg zero, outShapeLoop_of_fits rest (i + 1) _
        fun b' mem' => fits b' (List.mem_cons_of_mem _ mem')]
      simp [zero, recordedSizes, List.enumFrom_cons, List.append_assoc]

/-- The loop faults exactly at the first shape larger than `data`, when no product
before it is 0. -/
theorem outShapeLoop_error_iff :
    ∀ (shapes : List OutShapeBuffer) (i : Nat) (dyn : DynamicShape) (e : Fault),
      outShapeLoop mem outputs i shapes dyn = .error e ↔
        ∃ k b, e = .outShapeData (i + k) ∧ shapes[k]? = some b ∧ 4 * outShapeDataLen < b.size ∧
          ∀ b' ∈ shapes.take k, b'.size ≤ 4 * outShapeDataLen ∧ elementCount (b'.dims mem) ≠ 0
  | [], i, dyn, e => by simp [outShapeLoop, pure, Except.pure]
  | b :: rest, i, dyn, e => by
    by_cases over : 4 * outShapeDataLen < b.size
    · rw [outShapeLoop, if_pos over]
      constructor
      · rintro ⟨⟩
        exact ⟨0, b, rfl, List.getElem?_cons_zero, over, by simp⟩
      · rintro ⟨k, b', rfl, at_k, -, before⟩
        cases k with
        | zero => rfl
        | succ k => exact absurd (before b (List.mem_cons_self _ _)).1 (Nat.not_le.mpr over)
    rw [outShapeLoop, if_neg over]
    by_cases zero : elementCount (b.dims mem) = 0
    · rw [if_pos zero]
      refine iff_of_false nofun ?_
      rintro ⟨k, b', -, at_k, over', before⟩
      cases k with
      | zero => exact over (Option.some.inj (List.getElem?_cons_zero.symm.trans at_k) ▸ over')
      | succ k => exact (before b (List.mem_cons_self _ _)).2 zero
    rw [if_neg zero, outShapeLoop_error_iff rest (i + 1)]
    constructor
    · rintro ⟨k, b', rfl, at_k, over', before⟩
      refine ⟨k + 1, b', by rw [Nat.add_right_comm, Nat.add_assoc],
        by rw [List.getElem?_cons_succ]; exact at_k, over', ?_⟩
      rw [List.take_succ_cons]
      rintro b'' (_ | ⟨_, mem'⟩)
      exacts [⟨Nat.not_lt.mp over, zero⟩, before b'' mem']
    · rintro ⟨k, b', rfl, at_k, over', before⟩
      cases k with
      | zero => exact absurd (Option.some.inj (List.getElem?_cons_zero.symm.trans at_k) ▸ over') over
      | succ k =>
        rw [List.getElem?_cons_succ] at at_k
        refine ⟨k, b', by rw [Nat.add_right_comm, Nat.add_assoc], at_k, over', fun b'' mem' => ?_⟩
        exact before b'' (by rw [List.take_succ_cons]; exact List.mem_cons_of_mem _ mem')

/-- The loop keeps the flag. -/
theorem outShapeLoop_flag : ∀ (shapes : List OutShapeBuffer) (i : Nat) {dyn dyn' : DynamicShape}
    {st : Status}, outShapeLoop mem outputs i shapes dyn = .ok (dyn', st) →
      dyn'.outShapeUpdated = dyn.outShapeUpdated
  | [], _, _, _, _, ok => by cases ok; rfl
  | b :: rest, i, dyn, dyn', st, ok => by
    rw [outShapeLoop] at ok
    by_cases over : 4 * outShapeDataLen < b.size
    · rw [if_pos over] at ok
      cases ok
    rw [if_neg over] at ok
    by_cases zero : elementCount (b.dims mem) = 0
    · rw [if_pos zero] at ok
      cases ok
      rfl
    rw [if_neg zero] at ok
    have kept := outShapeLoop_flag rest (i + 1) ok
    exact kept

end Loop

/-- The recorded sizes are the products times the bytes per element, modulo `2^64`. -/
theorem recordedSizes_eq (mem : Nat → UInt8) (outputs : List OutputBuffer)
    (shapes : List OutShapeBuffer) :
    recordedSizes mem outputs 0 shapes = shapes.enum.map fun e =>
      (e.1, (e.2.dims mem).prod * (outputs.getD e.1 default).type.bytesPerElement % 2 ^ 64) := by
  refine List.map_congr_left fun e _ => ?_
  rw [elementCount_eq, Nat.shiftLeft_eq, Nat.mod_mul_mod, DataType.two_pow_shift]

/-! ## One call -/

section Call

variable {j : JobV3_1} {s : OutShapeState} (mem : Nat → UInt8)

/-- Once the flag is set, a call returns SUCCESS and changes nothing. -/
theorem JobV3_1.parseDynamicOutShape_of_updated (updated : s.dyn.outShapeUpdated = true) :
    j.parseDynamicOutShape s mem = .ok (s, .success) := by
  unfold JobV3_1.parseDynamicOutShape
  by_cases dynamic : j.graph.dynamicShape ∧ j.dynShapeSet ∧ j.configShape.length = j.inputs.length
  · rw [if_pos dynamic, if_pos updated]
    rfl
  · rw [if_neg dynamic]
    rfl

/-- A call on a job whose flag is clear and whose shapes match its outputs sets the flag
and runs the loop over the shapes. -/
theorem JobV3_1.parseDynamicOutShape_of_fresh
    (dynamic : j.graph.dynamicShape ∧ j.dynShapeSet ∧ j.configShape.length = j.inputs.length)
    (fresh : s.dyn.outShapeUpdated = false) (matched : s.outputsShape.length = s.outputs.length) :
    j.parseDynamicOutShape s mem =
      (outShapeLoop mem s.outputs 0 s.outputsShape { s.dyn with outShapeUpdated := true }).map
        fun r => if r.2 = .success then
            ({ s with dyn := r.1, outputs := updateOutputSizes s.outputs r.1.configOutTensorSize },
              .success)
          else ({ s with dyn := r.1 }, r.2) := by
  unfold JobV3_1.parseDynamicOutShape
  rw [if_pos dynamic, fresh]
  dsimp only
  rw [if_neg Bool.false_ne_true, if_neg (not_not.mpr matched)]
  rcases outShapeLoop mem s.outputs 0 s.outputsShape { s.dyn with outShapeUpdated := true }
    with e | ⟨dyn, st⟩
  · rfl
  · by_cases ok : st = .success
    · subst ok
      rfl
    · simp only [bind, Except.bind, ne_eq, ok, not_false_eq_true, if_true, if_false, Except.map]
      rfl

/-- A call that goes through with the graph's guard set leaves the flag set, whatever
it returns. -/
theorem JobV3_1.parseDynamicOutShape_sets_flag
    (dynamic : j.graph.dynamicShape ∧ j.dynShapeSet ∧ j.configShape.length = j.inputs.length)
    {s₁ : OutShapeState} {st : Status} (ok : j.parseDynamicOutShape s mem = .ok (s₁, st)) :
    s₁.dyn.outShapeUpdated = true := by
  cases updated : s.dyn.outShapeUpdated
  · by_cases matched : s.outputsShape.length = s.outputs.length
    · rw [j.parseDynamicOutShape_of_fresh mem dynamic updated matched] at ok
      rcases loop : outShapeLoop mem s.outputs 0 s.outputsShape { s.dyn with outShapeUpdated := true }
        with e | ⟨dyn, st'⟩ <;> rw [loop] at ok
      · cases ok
      · have kept := outShapeLoop_flag mem s.outputs s.outputsShape 0 loop
        simp only [Except.map, Except.ok.injEq] at ok
        split at ok <;> (obtain ⟨rfl, -⟩ := Prod.mk.inj ok; exact kept)
    · unfold JobV3_1.parseDynamicOutShape at ok
      rw [if_pos dynamic, updated] at ok
      dsimp only at ok
      rw [if_neg Bool.false_ne_true, if_pos matched] at ok
      cases ok
      rfl
  · rw [j.parseDynamicOutShape_of_updated mem updated] at ok
    cases ok
    exact updated

/-- Calls on a job whose flag is set all return SUCCESS and change nothing. -/
theorem JobV3_1.dynOutShapeCalls_of_updated (updated : s.dyn.outShapeUpdated = true) :
    ∀ mems : List (Nat → UInt8), j.dynOutShapeCalls s mems = .ok (s, mems.map fun _ => .success)
  | [] => rfl
  | mem :: mems => by
    rw [JobV3_1.dynOutShapeCalls, j.parseDynamicOutShape_of_updated mem updated]
    simp only [bind, Except.bind, JobV3_1.dynOutShapeCalls_of_updated updated mems]
    rfl

end Call

/-! ## A dynamic-shape job

`e5Graph` is `headerOnlyGraph` with one input and one output; `dynJob` is a job of it
with its input's shape set and its IO buffers made. -/

/-- A dynamic-shape graph with one input and one output. -/
def e5Graph : Graph :=
  { headerOnlyGraph with
    bss := [⟨[⟨4096⟩], 1024, { (default : IoTensors) with inputs := [⟨0⟩], outputs := [⟨0⟩] }, []⟩] }

/-- A job of `e5Graph` with its one input's shape set. -/
def dynJob : JobV3_1 :=
  (JobV3_1.create e5Graph true [] true [true] .fresh (.once 0)).createIoBuffers

/-- The state of `dynJob` before its first call, with one `F32` output whose shape the
binary puts at `0x1000`, `size` bytes long. -/
def dynState (size : Nat) : OutShapeState :=
  ⟨[⟨0x1000, size⟩], [⟨.f32, 0⟩], ⟨false, []⟩⟩

/-- Device memory holding the E5 output shape `[1, 1000]` at `0x1000`. -/
def e5OutMem (a : Nat) : UInt8 :=
  if a = 0x1000 then 1 else if a = 0x1004 then 0xe8 else if a = 0x1005 then 3 else 0

example : dynJob.parseDynamicOutShape (dynState 8) e5OutMem =
    .ok (⟨[⟨0x1000, 8⟩], [⟨.f32, 4000⟩], ⟨true, [(0, 4000)]⟩⟩, .success) := rfl

/-- Device memory where every aligned word reads `65536`. -/
def wrapMem (a : Nat) : UInt8 :=
  if a % 4 = 2 then 1 else 0

/-! ## What the calls do -/

/-- With the graph's guard set, a clear flag and as many shapes as outputs, a call
faults exactly at the first shape larger than `data`, when no product before it is 0.
The binary's size is copied into `data` unchecked. -/
theorem JobV3_1.parseDynamicOutShape_faults_iff (j : JobV3_1) (s : OutShapeState)
    (mem : Nat → UInt8)
    (dynamic : j.graph.dynamicShape ∧ j.dynShapeSet ∧ j.configShape.length = j.inputs.length)
    (fresh : s.dyn.outShapeUpdated = false) (matched : s.outputsShape.length = s.outputs.length)
    (e : Fault) :
    j.parseDynamicOutShape s mem = .error e ↔
      ∃ k b, e = .outShapeData k ∧ s.outputsShape[k]? = some b ∧ 4 * outShapeDataLen < b.size ∧
        ∀ b' ∈ s.outputsShape.take k,
          b'.size ≤ 4 * outShapeDataLen ∧ (b'.dims mem).prod % 2 ^ 64 ≠ 0 := by
  have loop := outShapeLoop_error_iff mem s.outputs s.outputsShape 0
    { s.dyn with outShapeUpdated := true } e
  simp only [Nat.zero_add, elementCount_eq] at loop
  rw [j.parseDynamicOutShape_of_fresh mem dynamic fresh matched, ← loop]
  rcases outShapeLoop mem s.outputs 0 s.outputsShape { s.dyn with outShapeUpdated := true }
    with e' | r
  · simp only [Except.map, Except.error.injEq]
  · exact iff_of_false nofun nofun

/-- A shape of 388 bytes, 97 dims, makes the copy into `data` overflow. -/
theorem parseDynamicOutShape_faults_at_97_dims :
    (dynJob.graph.dynamicShape ∧ dynJob.dynShapeSet ∧
      dynJob.configShape.length = dynJob.inputs.length) ∧
    (dynState 388).dyn.outShapeUpdated = false ∧
    (dynState 388).outputsShape.length = (dynState 388).outputs.length ∧
    dynJob.parseDynamicOutShape (dynState 388) (fun _ => 0) = .error (.outShapeData 0) :=
  ⟨⟨rfl, rfl, rfl⟩, rfl, rfl,
    (JobV3_1.parseDynamicOutShape_faults_iff dynJob (dynState 388) (fun _ => 0) ⟨rfl, rfl, rfl⟩
      rfl rfl _).mpr ⟨0, _, rfl, rfl, by decide, nofun⟩⟩

/-- With the graph's guard set, a clear flag, as many shapes as outputs and every shape
fitting `data`, a call refuses with `ZERO_TENSOR_SIZE` exactly when some product of
dims is 0 modulo `2^64`. Otherwise it records, for each output, the product times the
bytes per element modulo `2^64`, and puts those sizes into the outputs. -/
theorem JobV3_1.parseDynamicOutShape_sizes (j : JobV3_1) (s : OutShapeState)
    (mem : Nat → UInt8)
    (dynamic : j.graph.dynamicShape ∧ j.dynShapeSet ∧ j.configShape.length = j.inputs.length)
    (fresh : s.dyn.outShapeUpdated = false) (matched : s.outputsShape.length = s.outputs.length)
    (fits : ∀ b ∈ s.outputsShape, b.size ≤ 4 * outShapeDataLen) :
    ∃ s', j.parseDynamicOutShape s mem =
        .ok (s', if ∃ b ∈ s.outputsShape, (b.dims mem).prod % 2 ^ 64 = 0 then .zeroTensorSize
          else .success) ∧
      ((∀ b ∈ s.outputsShape, (b.dims mem).prod % 2 ^ 64 ≠ 0) →
        s'.dyn.configOutTensorSize = s.dyn.configOutTensorSize ++ s.outputsShape.enum.map
          (fun e => (e.1, (e.2.dims mem).prod * (s.outputs.getD e.1 default).type.bytesPerElement %
            2 ^ 64)) ∧
        s'.outputs = updateOutputSizes s.outputs s'.dyn.configOutTensorSize) := by
  rw [j.parseDynamicOutShape_of_fresh mem dynamic fresh matched,
    outShapeLoop_of_fits mem s.outputs s.outputsShape 0 _ fits]
  by_cases nonZero : ∀ b ∈ s.outputsShape, (b.dims mem).prod % 2 ^ 64 ≠ 0
  · have all : (s.outputsShape.all fun b => elementCount (b.dims mem) ≠ 0) = true := by
      simpa only [List.all_eq_true, elementCount_eq, ne_eq, decide_eq_true_eq] using nonZero
    rw [if_pos all, if_neg (by simpa only [not_exists, not_and] using nonZero)]
    exact ⟨_, rfl, fun _ => ⟨by rw [recordedSizes_eq], rfl⟩⟩
  · have some : ¬(s.outputsShape.all fun b => elementCount (b.dims mem) ≠ 0) = true := by
      simpa only [List.all_eq_true, elementCount_eq, ne_eq, decide_eq_true_eq] using nonZero
    rw [if_neg some, if_pos (by simpa only [not_forall, not_not, exists_prop] using nonZero)]
    exact ⟨_, rfl, fun all => absurd all nonZero⟩

/-- Four dims of `65536`, none of them 0, multiply to `2^64`, which wraps to 0: the call
refuses with `ZERO_TENSOR_SIZE`. -/
theorem parseDynamicOutShape_wraps_to_zero :
    (dynJob.graph.dynamicShape ∧ dynJob.dynShapeSet ∧
      dynJob.configShape.length = dynJob.inputs.length) ∧
    (dynState 16).dyn.outShapeUpdated = false ∧
    (dynState 16).outputsShape.length = (dynState 16).outputs.length ∧
    (∀ b ∈ (dynState 16).outputsShape, b.size ≤ 4 * outShapeDataLen) ∧
    (⟨0x1000, 16⟩ : OutShapeBuffer).dims wrapMem = [65536, 65536, 65536, 65536] ∧
    ∃ s', dynJob.parseDynamicOutShape (dynState 16) wrapMem = .ok (s', .zeroTensorSize) := by
  have fits : ∀ b ∈ (dynState 16).outputsShape, b.size ≤ 4 * outShapeDataLen := by decide
  obtain ⟨s', call, -⟩ := JobV3_1.parseDynamicOutShape_sizes dynJob (dynState 16) wrapMem
    ⟨rfl, rfl, rfl⟩ rfl rfl fits
  have wraps : ∃ b ∈ (dynState 16).outputsShape, (b.dims wrapMem).prod % 2 ^ 64 = 0 := by decide
  rw [if_pos wraps] at call
  exact ⟨⟨rfl, rfl, rfl⟩, rfl, rfl, fits, by decide, s', call⟩

/-- With the graph's guard set, the first call sets the flag whatever it returns, and
every later call, whatever device memory it reads, returns SUCCESS and leaves the job
as the first call left it: after a refused call nothing is recomputed. -/
theorem JobV3_1.dynOutShapeCalls_after_first {j : JobV3_1} {s s₁ : OutShapeState}
    {mem : Nat → UInt8} {st : Status}
    (dynamic : j.graph.dynamicShape ∧ j.dynShapeSet ∧ j.configShape.length = j.inputs.length)
    (first : j.parseDynamicOutShape s mem = .ok (s₁, st)) (mems : List (Nat → UInt8)) :
    s₁.dyn.outShapeUpdated = true ∧
      j.dynOutShapeCalls s (mem :: mems) = .ok (s₁, st :: mems.map fun _ => .success) := by
  have flag := j.parseDynamicOutShape_sets_flag mem dynamic first
  refine ⟨flag, ?_⟩
  rw [JobV3_1.dynOutShapeCalls, first]
  simp only [bind, Except.bind, j.dynOutShapeCalls_of_updated flag mems]
  rfl

/-- A first call that reads a zero dim refuses; a retry once the device has written the
E5 shape `[1, 1000]` returns SUCCESS and leaves the sizes empty, although a fresh call
on that memory records 4000 bytes. -/
theorem dynOutShape_retry_keeps_refused_sizes :
    dynJob.parseDynamicOutShape (dynState 8) e5OutMem =
      .ok (⟨[⟨0x1000, 8⟩], [⟨.f32, 4000⟩], ⟨true, [(0, 4000)]⟩⟩, .success) ∧
    dynJob.dynOutShapeCalls (dynState 8) [fun _ => 0, e5OutMem] =
      .ok (⟨[⟨0x1000, 8⟩], [⟨.f32, 0⟩], ⟨true, []⟩⟩, [.zeroTensorSize, .success]) := by
  have first : dynJob.parseDynamicOutShape (dynState 8) (fun _ => 0) =
      .ok (⟨[⟨0x1000, 8⟩], [⟨.f32, 0⟩], ⟨true, []⟩⟩, .zeroTensorSize) := rfl
  exact ⟨rfl, (JobV3_1.dynOutShapeCalls_after_first ⟨rfl, rfl, rfl⟩ first [e5OutMem]).2⟩

end AipuUmd
