import AipuUmd.Job.Sharing

/-!
# What a refused `specify_io_buffer` leaves

`specify_io_buffer` checks the tensor's type, its index and that no tensor of the other
direction shares its reuse section; then, before it looks at the sharing case, it puts
the reuse index into `dma_buf_idx` and gives the reuse buffer back with
`free_phybuffer` (on the scatter path). A refused free, a sharing case it does not
know, or a failing dma-buf ioctl, is reported only after that.

* `JobV3_1.specifyIoBuffer_refused`: a call that returns an error status has left the
  job as it was, or recorded the reuse index, and then either the free was refused and
  nothing else changed, or the reuse buffer was given back and the descriptor still
  points at it.
-/

namespace AipuUmd

/-- Every way a call that returns an error status can end: a check before the free
refuses it and the job is as it was; or the index is in `dma_buf_idx` and either the
free of the scatter path's buffer was refused, or the sharing case is refused after the
buffer was given back. -/
theorem JobV3_1.specifyIoBuffer_refused {j j' : JobV3_1} {info : SharedTensorInfo}
    {freeSt st : Status} (ok : j.specifyIoBuffer info freeSt = .ok (j', st))
    (refused : st ≠ .success) :
    j' = j ∨ ∃ bss0 k desc, j.bssBufferVec.head? = some bss0 ∧ bss0.reuses.get? k = some desc ∧
      (j.optimizedReuseAlloc = false ∧ st = freeSt ∧
          j' = { j with
            bssBufferVec := j.bssBufferVec.set 0 { bss0 with dmaBufIdx := bss0.dmaBufIdx.insert k } } ∨
        info.target = .error st ∧
          j' = { j with
            mem := if j.optimizedReuseAlloc then j.mem else j.mem.free (some desc)
            bssBufferVec := j.bssBufferVec.set 0 { bss0 with dmaBufIdx := bss0.dmaBufIdx.insert k } }) := by
  obtain ⟨type, idx, shareCase, pa, dmaBufPa, offset⟩ := info
  unfold JobV3_1.specifyIoBuffer at ok
  cases type <;> dsimp only at ok
  case other =>
    cases ok
    exact .inl rfl
  all_goals
    split at ok
    · cases ok
      exact .inl rfl
    split at ok
    · cases ok
      exact .inl rfl
    split at ok
    · cases ok
    next bss0 head =>
    split at ok
    · cases ok
    next desc reuse =>
    split at ok
    · next refusedFree =>
      cases ok
      exact .inr ⟨bss0, _, desc, head, reuse, .inl ⟨by simpa using refusedFree.1, rfl, rfl⟩⟩
    split at ok
    · next st' target =>
      cases ok
      exact .inr ⟨bss0, _, desc, head, reuse, .inr ⟨target, rfl⟩⟩
    · split_ifs at ok <;> cases ok <;> exact absurd rfl refused

/-- Scenario E3 whose one reuse section holds an input tensor. -/
def oneInputGraph : Graph :=
  { e3Graph with bss := [⟨[⟨4096⟩], 1024, { (default : IoTensors) with inputs := [⟨0⟩] }, []⟩] }

/-- On a job `init` built, specifying input 0 with a sharing case the switch does not
know is refused with `AIPU_STATUS_ERROR_INVALID_OP`, after the input's reuse buffer was
given back and its index put into `dma_buf_idx`. -/
theorem specifyIoBuffer_refused_unknown_share :
    ∃ j j', (JobV3_1.create oneInputGraph true [] false [] .fresh (.once 0)).init =
        .ok (j, .success) ∧
      j.specifyIoBuffer ⟨.input, 0, .other, 0, none, 0⟩ .success = .ok (j', .invalidOp) ∧
      Status.invalidOp ≠ .success ∧
      (j' = j ∨ ∃ bss0 k desc, j.bssBufferVec.head? = some bss0 ∧ bss0.reuses.get? k = some desc ∧
        (j.optimizedReuseAlloc = false ∧ Status.invalidOp = Status.success ∧
            j' = { j with
              bssBufferVec := j.bssBufferVec.set 0 { bss0 with dmaBufIdx := bss0.dmaBufIdx.insert k } } ∨
          (⟨.input, 0, .other, 0, none, 0⟩ : SharedTensorInfo).target = .error .invalidOp ∧
            j' = { j with
              mem := if j.optimizedReuseAlloc then j.mem else j.mem.free (some desc)
              bssBufferVec := j.bssBufferVec.set 0 { bss0 with dmaBufIdx := bss0.dmaBufIdx.insert k } })) ∧
      j.bssBufferVec.map BssBuffer.dmaBufIdx = [[]] ∧ j'.bssBufferVec.map BssBuffer.dmaBufIdx = [[0]] :=
  ⟨_, _, rfl, rfl, by decide, JobV3_1.specifyIoBuffer_refused rfl (by decide), rfl, rfl⟩

end AipuUmd
