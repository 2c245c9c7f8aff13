import AipuUmd.Job.Disjoint
import Mathlib.Algebra.Order.BigOperators.Group.List

/-!
# The 32-bit carving of the centralized path

`alloc_subgraph_buffers_optimized` sizes `tot_priv` and `tot_reuse` in one pair of loops
(`maxPrivateSize32`, `reuseTotalSize32`) and carves the views out of them in another pair
(`viewSgPrivate`, `reuseViews`). Their accumulators `private_size`, `max_private_size`,
`reuse_buf_total_size`, `priv_offset` and `offset` are all `uint32_t`, and the job model
keeps them so. This module follows the views the carving loops hand out
(`sgPrivateViews32`, `reuseViews32`; `viewSgPrivate_ok` says the first are the private
views a job gets) and bounds them.

The sizing loops add every section and the carving loops only the non-empty ones. As
`ALIGN_PAGE(0)` is 0 the two reach the same value after each subgraph, wrapped or not
(`privateViews32_end`, `reuseViews32_laid`).

* `optimized_views_within_iff`: for every job, the private views lie inside the first
  `max_private_size` bytes of `tot_priv`, and the reuse views inside the first
  `reuse_buf_total_size` bytes of `tot_reuse`, exactly when none of them reaches `2^32`.
  Then the reuse views are pairwise disjoint, and so are the private views of subgraphs
  `i < k` with no PRE_ALL subgraph in `(i, k]`. Past `2^32` the running offset falls
  back onto views already handed out, and the top buffer is sized by the wrapped sum.
* `PrivateSizesFit`: the private sizes, summed without wrapping from the last PRE_ALL
  subgraph, stay below `2^32`; then no private view reaches `2^32`
  (`sgPrivateViews32_fit`). `reuseTotalSize32_eq_sum` does the same for `tot_reuse`.
-/

namespace AipuUmd

/-! ## The views the loops hand out -/

/-- The subgraph loop of the views: the private views of each subgraph in turn, each
going on from the offset the previous one left except at a PRE_ALL subgraph. -/
def sgPrivateViews32 (base offset : Nat) : List Subgraph → List (List BufferDesc)
  | [] => []
  | sg :: rest =>
    let (views, next) := privateViews32 base
      (if sg.precursorCnt = subgDependPreall then 0 else offset) sg.privateBuffers
    views :: sgPrivateViews32 base next rest

/-- The views of `tot_reuse` the reuse loop of BSS 0 hands out. An empty section gets
nothing, and a GM or `m_fm_idxes` section an allocation of its own (`reuseViews`, where
a refused one stops the path). -/
def JobV3_1.reuseViews32 (j : JobV3_1) (base k offset : Nat) : List SectionDesc → List BufferDesc
  | [] => []
  | sec :: rest =>
    if sec.size ≠ 0 ∧ j.reuseKind k = .central then
      .view base offset (alignPage sec.size) ::
        j.reuseViews32 base (k + 1) ((offset + alignPage sec.size) % 2 ^ 32) rest
    else j.reuseViews32 base (k + 1) offset rest

/-- A view of allocation `base` that lies in its first `size` bytes. -/
def BufferDesc.Within (base size : Nat) : BufferDesc → Prop
  | .view b o s => b = base ∧ o + s ≤ size
  | _ => False

instance (base size : Nat) (v : BufferDesc) : Decidable (v.Within base size) := by
  cases v <;> unfold BufferDesc.Within <;> infer_instance

/-! ## The views a job gets -/

theorem JobV3_1.viewSgPrivate_cons (j : JobV3_1) (top : Option BufferDesc) (offset i : Nat)
    (rest : List Nat) :
    j.viewSgPrivate top offset (i :: rest) =
      let r := privateViews32 (BufferDesc.baseId top)
        (if (j.subgraph i).precursorCnt = subgDependPreall then 0 else offset)
        (j.subgraph i).privateBuffers
      if top.isNone && !r.1.isEmpty then .error (.nullTopPrivBuf i)
      else { j with sgJob := j.sgJob ++ [SubGraphTask.mk i r.1 []] }.viewSgPrivate top r.2 rest :=
  rfl

/-- A run of the centralized subgraph loop that does not fault appends one record per
subgraph, without tasks, holding the views of the `uint32_t` loop; with `tot_priv` null
the records hold no view. -/
theorem JobV3_1.viewSgPrivate_ok {j k : JobV3_1} {top : Option BufferDesc} {offset : Nat}
    {ids : List Nat} (ok : j.viewSgPrivate top offset ids = .ok k) :
    ∃ added, k = { j with sgJob := j.sgJob ++ added } ∧ added.map SubGraphTask.id = ids ∧
      (∀ t ∈ added, t.tasks = []) ∧
      added.map SubGraphTask.reusePrivBuffers =
        sgPrivateViews32 (BufferDesc.baseId top) offset (ids.map j.subgraph) ∧
      (top = none → ∀ t ∈ added, t.reusePrivBuffers = []) := by
  induction ids generalizing j offset with
  | nil =>
    cases ok
    exact ⟨[], by rw [List.append_nil], rfl, nofun, rfl, nofun⟩
  | cons i rest ih =>
    rw [JobV3_1.viewSgPrivate_cons] at ok
    generalize hp : privateViews32 (BufferDesc.baseId top)
      (if (j.subgraph i).precursorCnt = subgDependPreall then 0 else offset)
      (j.subgraph i).privateBuffers = p at ok
    obtain ⟨views, next⟩ := p
    dsimp only at ok
    split at ok
    · cases ok
    next null =>
      obtain ⟨added, rfl, ids, tasks, privs, none'⟩ := ih ok
      refine ⟨⟨i, views, []⟩ :: added, by rw [List.append_assoc, List.singleton_append],
        by rw [List.map_cons, ids], ?_, ?_, ?_⟩
      · rintro t (_ | ⟨_, ht⟩)
        · rfl
        · exact tasks t ht
      · rw [List.map_cons, privs, List.map_cons, sgPrivateViews32, hp]
        rfl
      · rintro rfl t (_ | ⟨_, ht⟩)
        · simpa using null
        · exact none' rfl t ht

/-- The centralized path after its top buffers runs the rest once the subgraph loop
does not fault. -/
theorem JobV3_1.allocViews_ok {j : JobV3_1} {r : JobV3_1 × Int} :
    j.allocViews = .ok r ↔
      ∃ v, j.viewSgPrivate j.topPrivBuf 0 (List.range j.sgCnt) = .ok v ∧ v.allocCentralRest = r := by
  unfold JobV3_1.allocViews
  rw [bind_eq_ok]
  exact exists_congr fun v => and_congr_right fun _ => ⟨Except.ok.inj, congrArg _⟩

/-! ## Bounds -/

theorem le_maxPrivateSize32 (size maxSize : Nat) (sgs : List Subgraph) :
    maxSize ≤ maxPrivateSize32 size maxSize sgs := by
  induction sgs generalizing size maxSize with
  | nil => exact le_rfl
  | cons sg rest ih => exact (le_max_left _ _).trans (ih _ _)

theorem maxPrivateSize32_lt (size : Nat) {maxSize : Nat} (lt : maxSize < 2 ^ 32)
    (sgs : List Subgraph) : maxPrivateSize32 size maxSize sgs < 2 ^ 32 := by
  induction sgs generalizing size maxSize with
  | nil => exact lt
  | cons sg rest ih => exact ih _ (max_lt lt (Nat.mod_lt _ (Nat.two_pow_pos 32)))

theorem JobV3_1.reuseTotalSize32_lt (j : JobV3_1) (k : Nat) {total : Nat} (lt : total < 2 ^ 32)
    (secs : List SectionDesc) : j.reuseTotalSize32 k total secs < 2 ^ 32 := by
  induction secs generalizing k total with
  | nil => exact lt
  | cons sec rest ih =>
    refine ih _ ?_
    split
    · exact Nat.mod_lt _ (Nat.two_pow_pos 32)
    · exact lt

/-! ## The two loops agree -/

theorem alignPage_zero : alignPage 0 = 0 := rfl

theorem alignPage_pos {size : Nat} (ne : size ≠ 0) : 0 < alignPage size := by
  unfold alignPage aipuPageSize
  omega

/-- After one subgraph `priv_offset` is where the sizing loop's `private_size` is: the
carving skips empty sections, which the sizing loop adds as 0. -/
theorem privateViews32_end (base : Nat) {offset : Nat} (lt : offset < 2 ^ 32)
    (secs : List SectionDesc) :
    (privateViews32 base offset secs).2 =
      (offset + (secs.map fun sec => alignPage sec.size).sum) % 2 ^ 32 := by
  induction secs generalizing offset with
  | nil => exact (Nat.mod_eq_of_lt lt).symm
  | cons sec rest ih =>
    by_cases empty : sec.size = 0
    · simp only [privateViews32, empty, ite_true, ih lt, List.map_cons, List.sum_cons,
        alignPage_zero, Nat.zero_add]
    · simp only [privateViews32, if_neg empty, ih (Nat.mod_lt _ (Nat.two_pow_pos 32)),
        List.map_cons, List.sum_cons, Nat.mod_add_mod, Nat.add_assoc]

/-- While no view reaches `2^32`, the views of one subgraph lie one after the other
between the offset they start at and the offset the loop goes on from. -/
theorem privateViews32_laid (base : Nat) {offset : Nat} (lt : offset < 2 ^ 32)
    (secs : List SectionDesc)
    (fits : ∀ v ∈ (privateViews32 base offset secs).1, v.Within base (2 ^ 32 - 1)) :
    offset ≤ (privateViews32 base offset secs).2 ∧
      ∀ v ∈ (privateViews32 base offset secs).1, ∃ o s,
        v = .view base o s ∧ offset ≤ o ∧ o + s ≤ (privateViews32 base offset secs).2 := by
  induction secs generalizing offset with
  | nil => exact ⟨le_rfl, by simp [privateViews32]⟩
  | cons sec rest ih =>
    by_cases empty : sec.size = 0
    · simp only [privateViews32, if_pos empty] at fits ⊢
      exact ih lt fits
    · simp only [privateViews32, if_neg empty, List.mem_cons, forall_eq_or_imp] at fits ⊢
      have exact : (offset + alignPage sec.size) % 2 ^ 32 = offset + alignPage sec.size :=
        Nat.mod_eq_of_lt (by simp only [BufferDesc.Within] at fits; omega)
      rw [exact] at fits ⊢
      obtain ⟨grows, within⟩ := ih (by simp only [BufferDesc.Within] at fits; omega) fits.2
      refine ⟨by omega, ⟨_, _, rfl, le_rfl, grows⟩, fun v hv => ?_⟩
      obtain ⟨o, s, rfl, lo, hi⟩ := within v hv
      exact ⟨o, s, rfl, by omega, hi⟩

theorem privateViews32_lt (base : Nat) {offset : Nat} (lt : offset < 2 ^ 32)
    (secs : List SectionDesc) : (privateViews32 base offset secs).2 < 2 ^ 32 := by
  rw [privateViews32_end base lt]
  exact Nat.mod_lt _ (Nat.two_pow_pos 32)

theorem BufferDesc.Within.mono {v : BufferDesc} {base size size' : Nat}
    (within : v.Within base size) (le : size ≤ size') : v.Within base size' := by
  cases v <;> simp only [BufferDesc.Within] at within ⊢
  exact ⟨within.1, within.2.trans le⟩

/-! ## The private views -/

section Private

variable (base : Nat)

/-- While no view reaches `2^32`, every private view lies in the first `max_private_size`
bytes: it ends before the offset its subgraph leaves, where `private_size` is too. -/
theorem sgPrivateViews32_within {offset : Nat} (lt : offset < 2 ^ 32) (maxSize : Nat)
    (sgs : List Subgraph)
    (fits : ∀ vs ∈ sgPrivateViews32 base offset sgs, ∀ v ∈ vs, v.Within base (2 ^ 32 - 1)) :
    ∀ vs ∈ sgPrivateViews32 base offset sgs, ∀ v ∈ vs,
      v.Within base (maxPrivateSize32 offset maxSize sgs) := by
  induction sgs generalizing offset maxSize with
  | nil => simp [sgPrivateViews32]
  | cons sg rest ih =>
    have startLt : (if sg.precursorCnt = subgDependPreall then 0 else offset) < 2 ^ 32 := by
      split <;> omega
    simp only [sgPrivateViews32, maxPrivateSize32, List.mem_cons, forall_eq_or_imp] at fits ⊢
    rw [← privateViews32_end base startLt]
    obtain ⟨-, within⟩ := privateViews32_laid base startLt _ fits.1
    refine ⟨fun v hv => ?_, ih (privateViews32_lt base startLt _) _ fits.2⟩
    obtain ⟨o, s, rfl, -, hi⟩ := within v hv
    exact ⟨rfl, hi.trans ((le_max_right _ _).trans (le_maxPrivateSize32 _ _ _))⟩

/-- While no view reaches `2^32`, the views of the subgraphs up to the first PRE_ALL one
start at or after the offset the loop starts from. -/
theorem sgPrivateViews32_from {offset : Nat} (lt : offset < 2 ^ 32) (sgs : List Subgraph)
    (fits : ∀ vs ∈ sgPrivateViews32 base offset sgs, ∀ v ∈ vs, v.Within base (2 ^ 32 - 1))
    (k : Nat) (noPreall : ∀ p ≤ k, (sgs.getD p default).precursorCnt ≠ subgDependPreall) :
    ∀ v ∈ (sgPrivateViews32 base offset sgs).getD k [], ∃ o s, v = .view base o s ∧ offset ≤ o := by
  induction sgs generalizing offset k with
  | nil => simp [sgPrivateViews32]
  | cons sg rest ih =>
    have notPre : sg.precursorCnt ≠ subgDependPreall := noPreall 0 (Nat.zero_le k)
    simp only [sgPrivateViews32, if_neg notPre, List.mem_cons, forall_eq_or_imp] at fits ⊢
    obtain ⟨grows, within⟩ := privateViews32_laid base lt _ fits.1
    intro v hv
    cases k with
    | zero =>
      obtain ⟨o, s, rfl, lo, -⟩ := within v (by simpa only [List.getD_cons_zero] using hv)
      exact ⟨o, s, rfl, lo⟩
    | succ k =>
      obtain ⟨o, s, rfl, lo⟩ := ih (privateViews32_lt base lt _) fits.2 k
        (fun p le => by simpa only [List.getD_cons_succ] using noPreall (p + 1) (by omega))
        v (by simpa only [List.getD_cons_succ] using hv)
      exact ⟨o, s, rfl, by omega⟩

/-- While no view reaches `2^32`, the views of two subgraphs with no PRE_ALL subgraph
after the first up to the second are disjoint. -/
theorem sgPrivateViews32_apart {offset : Nat} (lt : offset < 2 ^ 32) (sgs : List Subgraph)
    (fits : ∀ vs ∈ sgPrivateViews32 base offset sgs, ∀ v ∈ vs, v.Within base (2 ^ 32 - 1))
    (i k : Nat) (ik : i < k)
    (noPreall : ∀ p, i < p → p ≤ k → (sgs.getD p default).precursorCnt ≠ subgDependPreall) :
    ∀ a ∈ (sgPrivateViews32 base offset sgs).getD i [],
      ∀ b ∈ (sgPrivateViews32 base offset sgs).getD k [], a.Disjoint b := by
  induction sgs generalizing offset i k with
  | nil => simp [sgPrivateViews32]
  | cons sg rest ih =>
    have startLt : (if sg.precursorCnt = subgDependPreall then 0 else offset) < 2 ^ 32 := by
      split <;> omega
    simp only [sgPrivateViews32, List.mem_cons, forall_eq_or_imp] at fits ⊢
    obtain ⟨k, rfl⟩ : ∃ k', k = k' + 1 := ⟨k - 1, by omega⟩
    have shift : ∀ p, i < p + 1 → p ≤ k → (rest.getD p default).precursorCnt ≠ subgDependPreall :=
      fun p lo hi => by simpa only [List.getD_cons_succ] using noPreall (p + 1) lo (by omega)
    simp only [List.getD_cons_succ]
    cases i with
    | zero =>
      obtain ⟨-, within⟩ := privateViews32_laid base startLt _ fits.1
      intro a ha b hb
      obtain ⟨o, s, rfl, -, hi⟩ := within a (by simpa only [List.getD_cons_zero] using ha)
      obtain ⟨p, t, rfl, lo⟩ := sgPrivateViews32_from base (privateViews32_lt base startLt _)
        rest fits.2 k (fun p le => shift p (by omega) le) b hb
      exact BufferDesc.disjoint_of_view_le (hi.trans lo)
    | succ i =>
      exact ih (privateViews32_lt base startLt _) fits.2 i k (by omega)
        (fun p lo hi => shift p (by omega) hi)

/-- `private_size` does not wrap: the page-aligned private sizes, summed from `size` and
from 0 again at each PRE_ALL subgraph, stay below `2^32` after every subgraph. -/
def PrivateSizesFit (size : Nat) : List Subgraph → Prop
  | [] => True
  | sg :: rest =>
    let size := (if sg.precursorCnt = subgDependPreall then 0 else size) +
      (sg.privateBuffers.map fun sec => alignPage sec.size).sum
    size < 2 ^ 32 ∧ PrivateSizesFit size rest

instance privateSizesFitDecidable :
    (size : Nat) → (sgs : List Subgraph) → Decidable (PrivateSizesFit size sgs)
  | _, [] => isTrue trivial
  | size, sg :: rest =>
    @instDecidableAnd _ _ (Nat.decLt _ _) (privateSizesFitDecidable
      ((if sg.precursorCnt = subgDependPreall then 0 else size) +
        (sg.privateBuffers.map fun sec => alignPage sec.size).sum) rest)

/-- A private view carved while `priv_offset` does not wrap ends before `2^32`. -/
theorem privateViews32_fit {offset : Nat} (secs : List SectionDesc)
    (fits : offset + (secs.map fun sec => alignPage sec.size).sum < 2 ^ 32) :
    ∀ v ∈ (privateViews32 base offset secs).1, v.Within base (2 ^ 32 - 1) := by
  induction secs generalizing offset with
  | nil => simp [privateViews32]
  | cons sec rest ih =>
    simp only [List.map_cons, List.sum_cons] at fits
    by_cases empty : sec.size = 0
    · simp only [privateViews32, if_pos empty]
      exact ih (by omega)
    · simp only [privateViews32, if_neg empty, List.mem_cons, forall_eq_or_imp,
        Nat.mod_eq_of_lt (show offset + alignPage sec.size < 2 ^ 32 by omega)]
      exact ⟨⟨rfl, by omega⟩, ih (by omega)⟩

/-- While `private_size` does not wrap, no private view reaches `2^32`. -/
theorem sgPrivateViews32_fit {offset : Nat} (sgs : List Subgraph) (fits : PrivateSizesFit offset sgs) :
    ∀ vs ∈ sgPrivateViews32 base offset sgs, ∀ v ∈ vs, v.Within base (2 ^ 32 - 1) := by
  induction sgs generalizing offset with
  | nil => simp [sgPrivateViews32]
  | cons sg rest ih =>
    obtain ⟨lt, restFits⟩ := fits
    simp only [sgPrivateViews32, List.mem_cons, forall_eq_or_imp]
    refine ⟨privateViews32_fit base _ lt, ?_⟩
    rw [privateViews32_end base (by omega), Nat.mod_eq_of_lt lt]
    exact ih restFits

end Private

/-! ## The reuse views -/

/-- While no view reaches `2^32`, the reuse views lie one after the other, no two
overlapping, between the offset they start at and `reuse_buf_total_size` summed from
the same value. -/
theorem JobV3_1.reuseViews32_laid (j : JobV3_1) (base k : Nat) {offset : Nat}
    (lt : offset < 2 ^ 32) (secs : List SectionDesc)
    (fits : ∀ v ∈ j.reuseViews32 base k offset secs, v.Within base (2 ^ 32 - 1)) :
    offset ≤ j.reuseTotalSize32 k offset secs ∧
      (∀ v ∈ j.reuseViews32 base k offset secs, ∃ o s,
        v = .view base o s ∧ offset ≤ o ∧ o + s ≤ j.reuseTotalSize32 k offset secs) ∧
      (j.reuseViews32 base k offset secs).Pairwise BufferDesc.Disjoint := by
  induction secs generalizing k offset with
  | nil => exact ⟨le_rfl, by simp [JobV3_1.reuseViews32], .nil⟩
  | cons sec rest ih =>
    by_cases carved : sec.size ≠ 0 ∧ j.reuseKind k = .central
    · simp only [JobV3_1.reuseViews32, JobV3_1.reuseTotalSize32, if_pos carved, if_pos carved.2,
        List.mem_cons, forall_eq_or_imp, List.pairwise_cons] at fits ⊢
      have exact : (offset + alignPage sec.size) % 2 ^ 32 = offset + alignPage sec.size :=
        Nat.mod_eq_of_lt (by simp only [BufferDesc.Within] at fits; omega)
      rw [exact] at fits ⊢
      obtain ⟨grows, within, apart⟩ :=
        ih (k + 1) (by simp only [BufferDesc.Within] at fits; omega) fits.2
      refine ⟨by omega, ⟨⟨_, _, rfl, le_rfl, grows⟩, fun v hv => ?_⟩, ⟨fun v hv => ?_, apart⟩⟩
      · obtain ⟨o, s, rfl, lo, hi⟩ := within v hv
        exact ⟨o, s, rfl, by omega, hi⟩
      · obtain ⟨o, s, rfl, lo, -⟩ := within v hv
        exact BufferDesc.disjoint_of_view_le lo
    · -- an empty central section adds `ALIGN_PAGE(0) = 0` to the total
      have same : (if j.reuseKind k = .central then (offset + alignPage sec.size) % 2 ^ 32
          else offset) = offset := by
        split_ifs with central
        · rw [show sec.size = 0 from Classical.not_not.mp fun h => carved ⟨h, central⟩,
            alignPage_zero, Nat.add_zero, Nat.mod_eq_of_lt lt]
        · rfl
      simp only [JobV3_1.reuseViews32, JobV3_1.reuseTotalSize32, if_neg carved, same] at fits ⊢
      exact ih (k + 1) lt fits

/-- `reuse_buf_total_size` is the page-aligned sizes of the sections that go to
`tot_reuse`, added without wrapping, modulo `2^32`. -/
theorem JobV3_1.reuseTotalSize32_eq_sum (j : JobV3_1) (k total : Nat) (secs : List SectionDesc) :
    j.reuseTotalSize32 k (total % 2 ^ 32) secs =
      (total + (((secs.enumFrom k).filter fun p => j.reuseKind p.1 = .central).map
        fun p => alignPage p.2.size).sum) % 2 ^ 32 := by
  induction secs generalizing k total with
  | nil => simp [JobV3_1.reuseTotalSize32]
  | cons sec rest ih =>
    by_cases central : j.reuseKind k = .central
    · simp only [JobV3_1.reuseTotalSize32, if_pos central, Nat.mod_add_mod, ih, List.enumFrom_cons,
        List.filter_cons, central, decide_True, if_true, List.map_cons, List.sum_cons, Nat.add_assoc]
    · simp only [JobV3_1.reuseTotalSize32, if_neg central, ih, List.enumFrom_cons,
        List.filter_cons, central, decide_False, Bool.false_eq_true, if_false]

/-- `tot_reuse` is not empty when the sections that go to it add up to less than `2^32`
and one of them is not empty. -/
theorem JobV3_1.reuseTotalSize32_pos (j : JobV3_1) {secs : List SectionDesc}
    (fits : ((secs.enum.filter fun p => j.reuseKind p.1 = .central).map
      fun p => alignPage p.2.size).sum < 2 ^ 32)
    {k : Nat} {sec : SectionDesc} (get : secs[k]? = some sec) (ne : sec.size ≠ 0)
    (central : j.reuseKind k = .central) : 0 < j.reuseTotalSize32 0 0 secs := by
  have eq := j.reuseTotalSize32_eq_sum 0 0 secs
  rw [Nat.zero_mod, Nat.zero_add] at eq
  rw [eq, ← List.enum, Nat.mod_eq_of_lt fits]
  have mem : (k, sec) ∈ secs.enum.filter fun p => j.reuseKind p.1 = .central :=
    List.mem_filter.mpr ⟨List.mem_enum_iff_getElem?.mpr get, by simp [central]⟩
  have mapped := List.mem_map_of_mem (fun p : Nat × SectionDesc => alignPage p.2.size) mem
  exact (alignPage_pos ne).trans_le (List.le_sum_of_mem mapped)

/-! ## For every job -/

theorem JobV3_1.getD_subgraphs (j : JobV3_1) {p : Nat} (lt : p < j.sgCnt) :
    ((List.range j.sgCnt).map j.subgraph).getD p default = j.graph.subgraph p := by
  rw [List.getD_eq_getElem?_getD, List.getElem?_map, List.getElem?_range lt]
  rfl

/-- The views of the centralized path, as the code computes them in `uint32_t`: the
private views lie in the first `max_private_size` bytes of `tot_priv` and the reuse views
in the first `reuse_buf_total_size` bytes of `tot_reuse` exactly when none of them
reaches `2^32`; then the reuse views, and the private views of subgraphs `i < k` with no
PRE_ALL subgraph in `(i, k]`, are pairwise disjoint. -/
theorem JobV3_1.optimized_views_within_iff (j : JobV3_1) (privBase reuseBase : Nat) :
    let sgs := (List.range j.sgCnt).map j.subgraph
    let privs := sgPrivateViews32 privBase 0 sgs
    let reuses := j.reuseViews32 reuseBase 0 0 j.graph.bss0.reuseSections
    ((∀ vs ∈ privs, ∀ v ∈ vs, v.Within privBase (maxPrivateSize32 0 0 sgs)) ↔
        ∀ vs ∈ privs, ∀ v ∈ vs, v.Within privBase (2 ^ 32 - 1)) ∧
      ((∀ v ∈ reuses, v.Within reuseBase (j.reuseTotalSize32 0 0 j.graph.bss0.reuseSections)) ↔
        ∀ v ∈ reuses, v.Within reuseBase (2 ^ 32 - 1)) ∧
      ((∀ v ∈ reuses, v.Within reuseBase (2 ^ 32 - 1)) →
        reuses.Pairwise BufferDesc.Disjoint) ∧
      ((∀ vs ∈ privs, ∀ v ∈ vs, v.Within privBase (2 ^ 32 - 1)) →
        ∀ i k, i < k → k < j.sgCnt → j.graph.NoPreallBetween i k →
          ∀ a ∈ privs.getD i [], ∀ b ∈ privs.getD k [], a.Disjoint b) := by
  intro sgs privs reuses
  have zero : 0 < 2 ^ 32 := Nat.two_pow_pos 32
  have maxLt := maxPrivateSize32_lt 0 zero sgs
  have totalLt := j.reuseTotalSize32_lt 0 zero j.graph.bss0.reuseSections
  refine ⟨⟨fun within vs hvs v hv => (within vs hvs v hv).mono (by omega),
      sgPrivateViews32_within privBase zero 0 sgs⟩,
    ⟨fun within v hv => (within v hv).mono (by omega), fun fits v hv => ?_⟩,
    fun fits => (j.reuseViews32_laid reuseBase 0 zero _ fits).2.2,
    fun fits i k ik lt between => sgPrivateViews32_apart privBase zero sgs fits i k ik
      fun p lo hi => by rw [j.getD_subgraphs (by omega)]; exact between p lo hi⟩
  obtain ⟨o, s, rfl, -, hi⟩ := (j.reuseViews32_laid reuseBase 0 zero _ fits).2.1 v hv
  exact ⟨rfl, hi⟩

/-- Two subgraphs, the second not PRE_ALL, with private sections of `2^31` bytes, then
`2^31` and 4096 bytes; BSS 0 has reuse sections of `2^31`, `2^31` and 4096 bytes. -/
def wrapGraph : Graph where
  subgraphs := [⟨0, [], [⟨2 ^ 31⟩], 0, 0⟩, ⟨0, [], [⟨2 ^ 31⟩, ⟨4096⟩], 0, 0⟩]
  fakeSubgraph := false
  bss := [⟨[⟨2 ^ 31⟩, ⟨2 ^ 31⟩, ⟨4096⟩], 1024, default, []⟩]
  rodataSize := 0
  descSize := 0
  globalParamSize := 0
  dynamicShape := false
  gmReuse := []

/-- A job of `wrapGraph` with its two subgraphs counted, as `init` leaves it. -/
def wrapJob : JobV3_1 :=
  { JobV3_1.create wrapGraph true [] false [] .fresh (.once 0) with sgCnt := 2 }

/-- On `wrapJob` both offsets wrap. `tot_priv` gets `2^31` bytes and `tot_reuse` 4096,
the second subgraph's 4096-byte view lands on the first subgraph's, and the third reuse
view on the first. -/
theorem optimized_views_wrap_onto_first :
    let sgs := (List.range wrapJob.sgCnt).map wrapJob.subgraph
    let privs := sgPrivateViews32 1 0 sgs
    let reuses := wrapJob.reuseViews32 2 0 0 wrapJob.graph.bss0.reuseSections
    maxPrivateSize32 0 0 sgs = 2 ^ 31 ∧
      privs = [[.view 1 0 (2 ^ 31)], [.view 1 (2 ^ 31) (2 ^ 31), .view 1 0 4096]] ∧
      ¬(∀ vs ∈ privs, ∀ v ∈ vs, v.Within 1 (maxPrivateSize32 0 0 sgs)) ∧
      wrapJob.graph.NoPreallBetween 0 1 ∧
      ¬(BufferDesc.view 1 0 (2 ^ 31)).Disjoint (.view 1 0 4096) ∧
      wrapJob.reuseTotalSize32 0 0 wrapJob.graph.bss0.reuseSections = 4096 ∧
      reuses = [.view 2 0 (2 ^ 31), .view 2 (2 ^ 31) (2 ^ 31), .view 2 0 4096] ∧
      ¬(∀ v ∈ reuses, v.Within 2 (wrapJob.reuseTotalSize32 0 0 wrapJob.graph.bss0.reuseSections)) ∧
      ¬reuses.Pairwise BufferDesc.Disjoint := by
  intro sgs privs reuses
  have privsEq : privs = [[.view 1 0 (2 ^ 31)], [.view 1 (2 ^ 31) (2 ^ 31), .view 1 0 4096]] :=
    rfl
  have reusesEq : reuses = [.view 2 0 (2 ^ 31), .view 2 (2 ^ 31) (2 ^ 31), .view 2 0 4096] := rfl
  obtain ⟨privIff, reuseIff, -, -⟩ := wrapJob.optimized_views_within_iff 1 2
  refine ⟨rfl, privsEq, fun within => ?_, fun p lo hi => ?_, by decide, rfl, reusesEq,
    fun within => ?_, by rw [reusesEq]; decide⟩
  · have fits : ∀ vs ∈ privs, ∀ v ∈ vs, v.Within 1 (2 ^ 32 - 1) := privIff.mp within
    rw [privsEq] at fits
    exact absurd fits (by decide)
  · obtain rfl : p = 1 := by omega
    decide
  · have fits : ∀ v ∈ reuses, v.Within 2 (2 ^ 32 - 1) := reuseIff.mp within
    rw [reusesEq] at fits
    exact absurd fits (by decide)

/-! ## A null `tot_priv` -/

theorem privateViews32_eq_nil (base offset : Nat) (secs : List SectionDesc) :
    (privateViews32 base offset secs).1 = [] ↔ ∀ sec ∈ secs, sec.size = 0 := by
  induction secs generalizing offset with
  | nil => simp [privateViews32]
  | cons sec rest ih =>
    by_cases empty : sec.size = 0
    · rw [privateViews32, if_pos empty, ih]
      simp [empty]
    · simp [privateViews32, if_neg empty, empty]

/-- With `tot_priv` null, the subgraph loop goes through the subgraphs without a
non-empty private section and faults at the first one with one. -/
theorem JobV3_1.viewSgPrivate_null (j : JobV3_1) (offset : Nat) {pre : List Nat} {i : Nat}
    (post : List Nat) (empty : ∀ p ∈ pre, ∀ sec ∈ (j.subgraph p).privateBuffers, sec.size = 0)
    (nonEmpty : ∃ sec ∈ (j.subgraph i).privateBuffers, sec.size ≠ 0) :
    j.viewSgPrivate none offset (pre ++ i :: post) = .error (.nullTopPrivBuf i) := by
  induction pre generalizing j offset with
  | nil =>
    obtain ⟨sec, mem, ne⟩ := nonEmpty
    have views : (privateViews32 0 (if (j.subgraph i).precursorCnt = subgDependPreall then 0 else offset)
        (j.subgraph i).privateBuffers).1 ≠ [] :=
      fun none => ne ((privateViews32_eq_nil _ _ _).mp none sec mem)
    rw [List.nil_append, JobV3_1.viewSgPrivate_cons]
    dsimp only
    rw [if_pos (by simpa [BufferDesc.baseId] using views)]
  | cons p pre ih =>
    have views : (privateViews32 0 (if (j.subgraph p).precursorCnt = subgDependPreall then 0 else offset)
        (j.subgraph p).privateBuffers).1 = [] :=
      (privateViews32_eq_nil _ _ _).mpr (empty p (.head _))
    rw [List.cons_append, JobV3_1.viewSgPrivate_cons]
    dsimp only
    rw [if_neg (by simp [BufferDesc.baseId, views])]
    exact ih _ _ (fun q hq => empty q (.tail _ hq)) nonEmpty

end AipuUmd
