import AipuUmd.Job.State
import Mathlib.Data.List.Nodup

/-!
# The I/O tensors of the parser

`fill_io_tensor_desc_inner` turns an I/O sub-section of a reuse section into a
`GraphIOTensorDesc` and files it under its type in BSS 0's `GraphIOTensors`.
`sort_io_tensor` then puts each list in id order: for every position `i` it copies the
descriptor found there to position `id`, and it refuses a list only when some id is out
of range. `sort_io` does so for the inputs, the outputs, the inter-dumps and the output
shapes.

* `sortIoTensor_spec`: a list is accepted exactly when every id is below its length, and
  when the ids are also distinct, position `id` holds the descriptor with that id.
* `duplicate_ids_sorted`: two descriptors of id 0 are accepted, the first lost and the
  second doubled.
-/

namespace AipuUmd

/-- A `SubSectionDesc` as the parser reads it from the binary: the raw `type` word and
the fields the parser copies. `scale` is a float in the binary; it is only copied, so
its bits are kept as a number. -/
structure SubSectionDesc where
  type : Nat
  offsetInRoCnt : Nat
  offsetInSectionExec : Nat
  addrMask : Nat
  size : Nat
  id : Nat
  scale : Nat
  zeroPoint : Nat
  dataType : Nat
deriving DecidableEq, Repr

/-- `GraphIOTensorDesc`. -/
structure GraphIoTensorDesc where
  size : Nat
  id : Nat
  refSectionIter : Nat
  offsetInSection : Nat
  scale : Nat
  zeroPoint : Nat
  dataType : Nat
deriving DecidableEq, Repr

/-- `GraphIOTensors`. -/
structure GraphIoTensors where
  inputs : List GraphIoTensorDesc
  outputs : List GraphIoTensorDesc
  interDumps : List GraphIoTensorDesc
  profiler : List GraphIoTensorDesc
  printf : List GraphIoTensorDesc
  layerCounter : List GraphIoTensorDesc
  errCode : List GraphIoTensorDesc
  segmmus : List GraphIoTensorDesc
  outputsShape : List GraphIoTensorDesc
deriving DecidableEq, Repr, Inhabited

/-- `ParserBase::fill_io_tensor_desc_inner`: the descriptor of sub-section `sub` of
reuse section `reuseSecIter`, whose type word reads as `type`, joins the list of its
type; any other type is `AIPU_STATUS_ERROR_INVALID_TENSOR_TYPE`. -/
def fillIoTensorDescInner (reuseSecIter : Nat) (type : SectionType) (sub : SubSectionDesc)
    (io : GraphIoTensors) : GraphIoTensors × Status :=
  let d : GraphIoTensorDesc :=
    ⟨sub.size, sub.id, reuseSecIter, sub.offsetInSectionExec, sub.scale, sub.zeroPoint,
      sub.dataType⟩
  match type with
  | .input => ({ io with inputs := io.inputs ++ [d] }, .success)
  | .output => ({ io with outputs := io.outputs ++ [d] }, .success)
  | .interDump => ({ io with interDumps := io.interDumps ++ [d] }, .success)
  | .profData => ({ io with profiler := io.profiler ++ [d] }, .success)
  | .plogData => ({ io with printf := io.printf ++ [d] }, .success)
  | .layerCounter => ({ io with layerCounter := io.layerCounter ++ [d] }, .success)
  | .errorCode => ({ io with errCode := io.errCode ++ [d] }, .success)
  | .segmmu => ({ io with segmmus := io.segmmus ++ [d] }, .success)
  | .outTensorShape => ({ io with outputsShape := io.outputsShape ++ [d] }, .success)
  | .other _ => (io, .invalidTensorType)

/-! ## `sort_io_tensor` -/

/-- The loop of `sort_io_tensor` over the entries `(i, tmp[i])` of the copy `tmp`,
writing into `tensors`. An id out of range stops it with the writes made so far. -/
def sortIoLoop (n : Nat) :
    List (Nat × GraphIoTensorDesc) → List GraphIoTensorDesc → List GraphIoTensorDesc × Status
  | [], tensors => (tensors, .success)
  | (i, t) :: rest, tensors =>
    if n ≤ t.id then (tensors, .invalidGbin)
    else sortIoLoop n rest (if t.id ≠ i then tensors.set t.id t else tensors)

/-- `ParserBase::sort_io_tensor`. -/
def sortIoTensor (tensors : List GraphIoTensorDesc) : List GraphIoTensorDesc × Status :=
  sortIoLoop tensors.length tensors.enum tensors

/-- `ParserBase::sort_io`: the four lists in turn, up to the first refusal. -/
def sortIo (io : GraphIoTensors) : GraphIoTensors × Status :=
  let (inputs, st) := sortIoTensor io.inputs
  let io := { io with inputs }
  if st ≠ .success then (io, st) else
  let (outputs, st) := sortIoTensor io.outputs
  let io := { io with outputs }
  if st ≠ .success then (io, st) else
  let (interDumps, st) := sortIoTensor io.interDumps
  let io := { io with interDumps }
  if st ≠ .success then (io, st) else
  let (outputsShape, st) := sortIoTensor io.outputsShape
  ({ io with outputsShape }, st)

/-! ## What `sort_io_tensor` accepts -/

theorem sortIoLoop_ok_iff (n : Nat) :
    ∀ (es : List (Nat × GraphIoTensorDesc)) (tensors : List GraphIoTensorDesc),
      (sortIoLoop n es tensors).2 = .success ↔ ∀ e ∈ es, e.2.id < n
  | [], _ => iff_of_true rfl nofun
  | (i, t) :: rest, tensors => by
    unfold sortIoLoop
    by_cases out : n ≤ t.id
    · rw [if_pos out]
      exact iff_of_false nofun fun inRange =>
        Nat.not_lt.mpr out (inRange (i, t) (List.mem_cons_self _ _))
    · simp only [if_neg out, sortIoLoop_ok_iff n rest, List.forall_mem_cons]
      exact ⟨fun later => ⟨by omega, later⟩, And.right⟩

/-- A list is accepted exactly when every id is below its length. -/
theorem sortIoTensor_ok_iff (tensors : List GraphIoTensorDesc) :
    (sortIoTensor tensors).2 = .success ↔ ∀ t ∈ tensors, t.id < tensors.length := by
  rw [sortIoTensor, sortIoLoop_ok_iff]
  exact ⟨fun inRange t mem => by
      obtain ⟨i, mem⟩ := List.mem_iff_get.mp mem
      exact inRange (i, t) (List.mk_mem_enum_iff_getElem?.mpr (by simp [← mem])),
    fun inRange e mem => inRange e.2 (List.snd_mem_of_mem_enum mem)⟩

/-- What the loop has done after the first `m` entries of `tmp`: each of them sits at its
id, and a position none of them names still holds its original descriptor. -/
structure SortInv (tmp out : List GraphIoTensorDesc) (m : Nat) : Prop where
  length : out.length = tmp.length
  placed : ∀ t ∈ tmp.take m, out[t.id]? = some t
  untouched : ∀ k, (∀ t ∈ tmp.take m, t.id ≠ k) → out[k]? = tmp[k]?

section Sorting

variable {tmp out : List GraphIoTensorDesc} {m : Nat} {t : GraphIoTensorDesc}

/-- Distinct ids: entry `m` names no position an earlier entry names. -/
theorem id_fresh (nodup : (tmp.map (·.id)).Nodup) (at_m : tmp[m]? = some t) :
    ∀ t' ∈ tmp.take m, t'.id ≠ t.id := by
  have take : tmp.take (m + 1) = tmp.take m ++ [t] := by rw [List.take_succ, at_m]; rfl
  have front := nodup.sublist ((List.take_sublist (m + 1) tmp).map (·.id))
  rw [take, List.map_append] at front
  intro t' mem same
  have earlier : t.id ∈ (tmp.take m).map (·.id) := same ▸ List.mem_map_of_mem (·.id) mem
  exact List.disjoint_of_nodup_append front earlier (List.mem_singleton_self _)

/-- One entry of the loop, when ids are distinct and in range. -/
theorem SortInv.step (inv : SortInv tmp out m) (nodup : (tmp.map (·.id)).Nodup)
    (at_m : tmp[m]? = some t) (inRange : t.id < tmp.length) :
    SortInv tmp (if t.id ≠ m then out.set t.id t else out) (m + 1) := by
  have take : tmp.take (m + 1) = tmp.take m ++ [t] := by rw [List.take_succ, at_m]; rfl
  have old : ∀ t' ∈ tmp.take m, t' ∈ tmp.take (m + 1) :=
    fun t' mem => take ▸ List.mem_append_left _ mem
  have new : t ∈ tmp.take (m + 1) := take ▸ List.mem_append_right _ (List.mem_singleton_self _)
  have split : ∀ t' ∈ tmp.take (m + 1), t' ∈ tmp.take m ∨ t' = t := fun t' mem => by
    rwa [take, List.mem_append, List.mem_singleton] at mem
  have fresh := id_fresh nodup at_m
  by_cases moves : t.id ≠ m
  · rw [if_pos moves]
    refine ⟨by rw [List.length_set, inv.length], fun t' mem => ?_, fun k apart => ?_⟩
    · rcases split t' mem with mem | rfl
      · rw [List.getElem?_set_ne (fresh t' mem).symm, inv.placed t' mem]
      · rw [List.getElem?_set_self (by rw [inv.length]; exact inRange)]
    · rw [List.getElem?_set_ne (apart t new),
        inv.untouched k fun t' mem => apart t' (old t' mem)]
  · rw [if_neg moves]
    refine ⟨inv.length, fun t' mem => ?_,
      fun k apart => inv.untouched k fun t' mem => apart t' (old t' mem)⟩
    rcases split t' mem with mem | rfl
    · exact inv.placed t' mem
    · rw [not_not.mp moves, inv.untouched m fun t' mem => not_not.mp moves ▸ fresh t' mem, at_m]

/-- The loop from entry `m` to the end, when ids are distinct and in range. -/
theorem SortInv.run (nodup : (tmp.map (·.id)).Nodup) (inRange : ∀ t ∈ tmp, t.id < tmp.length) :
    ∀ d m (out : List GraphIoTensorDesc), m + d = tmp.length → SortInv tmp out m →
      SortInv tmp (sortIoLoop tmp.length ((tmp.drop m).enumFrom m) out).1 tmp.length
  | 0, m, out, last, inv => by
    rw [List.drop_of_length_le (by omega)]
    exact last ▸ inv
  | d + 1, m, out, last, inv => by
    have lt : m < tmp.length := by omega
    rw [List.drop_eq_getElem_cons lt]
    have at_m : tmp[m]? = some tmp[m] := List.getElem?_eq_getElem lt
    have fits := inRange _ (List.getElem_mem lt)
    simp only [List.enumFrom_cons, sortIoLoop, if_neg (Nat.not_le.mpr fits)]
    exact SortInv.run nodup inRange d (m + 1) _ (by omega) (inv.step nodup at_m fits)

end Sorting

/-- `sort_io_tensor` accepts a list exactly when every id is below its length, and a list
whose ids are moreover distinct comes back with each descriptor at the position of its
id. -/
theorem sortIoTensor_spec (tensors : List GraphIoTensorDesc) :
    ((sortIoTensor tensors).2 = .success ↔ ∀ t ∈ tensors, t.id < tensors.length) ∧
      ((tensors.map (·.id)).Nodup → (∀ t ∈ tensors, t.id < tensors.length) →
        (sortIoTensor tensors).1.length = tensors.length ∧
          ∀ t ∈ tensors, (sortIoTensor tensors).1[t.id]? = some t) := by
  refine ⟨sortIoTensor_ok_iff tensors, fun nodup inRange => ?_⟩
  have start : SortInv tensors tensors 0 := ⟨rfl, by simp, fun _ _ => rfl⟩
  have inv := SortInv.run nodup inRange tensors.length 0 tensors (Nat.zero_add _) start
  rw [List.drop_zero] at inv
  exact ⟨inv.length, fun t mem => inv.placed t (by rwa [List.take_length])⟩

/-- An output of id 1 filed before the output of id 0. -/
def outputOne : GraphIoTensorDesc := ⟨4096, 1, 2, 0, 0, 0, 0⟩

/-- The output of id 0. -/
def outputZero : GraphIoTensorDesc := ⟨4096, 0, 1, 0, 0, 0, 0⟩

/-- The two outputs filed against their id order are swapped into it. -/
theorem sortIoTensor_spec_swapped :
    sortIoTensor [outputOne, outputZero] = ([outputZero, outputOne], .success) ∧
      ((sortIoTensor [outputOne, outputZero]).2 = .success ↔
        ∀ t ∈ [outputOne, outputZero], t.id < 2) :=
  ⟨rfl, (sortIoTensor_spec [outputOne, outputZero]).1⟩

theorem duplicate_ids_sorted (a b : GraphIoTensorDesc) :
    sortIoTensor [{ a with id := 0 }, { b with id := 0 }] =
      ([{ b with id := 0 }, { b with id := 0 }], .success) :=
  rfl

end AipuUmd
