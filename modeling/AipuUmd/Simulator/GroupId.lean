import Mathlib.Data.List.Basic
import Mathlib.Algebra.Order.Ring.Nat

/-!
# The group-id bitmap of `SimulatorV3_1`

`get_start_group_id(group_cnt, start_group_id)` hands a job a run of `group_cnt`
consecutive group ids from `m_group_id_bitmap`, under `m_group_id_mtx`. It looks at the
first clear bit `i` only. When `i + group_cnt >= MAX_GROUP_ID` it returns -1; otherwise
it writes `start_group_id = i`, sets the bits of `[i, i + group_cnt)` and returns 0. The
inner loop that meets a set bit inside the run sets `ret = -1` and breaks, but `ret = 0`
follows before anything reads it. A bitmap with no clear bit returns the initial
`ret = 0` and writes nothing.

`MAX_GROUP_ID` is not in the repository: the bitmap is a list of bits and its length is
`MAX_GROUP_ID`, so every result holds for every capacity.

* `getStartGroupId_cases`: the three outcomes of a call.
* `getStartGroupId_refused`, `getStartGroupId_written`: what a refusal and a grant
  change.
* `start_group_id_overclaims`: a full bitmap is granted, and a run over a taken bit is
  claimed again.
* `getStartGroupId_of_run`, `tail_run_refused`: a free run that stops short of the last
  bit is always granted, one that ends at the last bit is refused.
-/

namespace AipuUmd

namespace SimulatorV3_1

/-- The loop `for (j = i; j < i + group_cnt; j++) m_group_id_bitmap[j] = true;` over the
bits from index `k` on. -/
def claimRun (lo count : Nat) : Nat → List Bool → List Bool
  | _, [] => []
  | k, b :: rest => (b || decide (lo ≤ k ∧ k < lo + count)) :: claimRun lo count (k + 1) rest

/-- The outer loop of `get_start_group_id` over the bit indices `is`: the first clear bit
decides the call. The result is the bitmap, the value written to `start_group_id`
(`none` when it is not written) and the return value. -/
def searchGroupIds (bitmap : List Bool) (groupCnt : Nat) :
    List Nat → List Bool × Option Nat × Int
  | [] => (bitmap, none, 0)
  | i :: rest =>
    if bitmap[i]? = some false then
      if bitmap.length ≤ i + groupCnt then (bitmap, none, -1)
      else (claimRun i groupCnt 0 bitmap, some i, 0)
    else searchGroupIds bitmap groupCnt rest

/-- `SimulatorV3_1::get_start_group_id` on `m_group_id_bitmap`, whose length is
`MAX_GROUP_ID`. -/
def getStartGroupId (bitmap : List Bool) (groupCnt : Nat) : List Bool × Option Nat × Int :=
  if groupCnt = 0 then (bitmap, none, 0)
  else searchGroupIds bitmap groupCnt (List.range bitmap.length)

/-! ## Claiming a run -/

theorem claimRun_length (lo count : Nat) :
    ∀ (k : Nat) (bs : List Bool), (claimRun lo count k bs).length = bs.length
  | _, [] => rfl
  | k, _ :: rest => congrArg (· + 1) (claimRun_length lo count (k + 1) rest)

/-- Bit `j` after the claim: set when it lies in `[lo, lo + count)`, as before
otherwise. -/
theorem getElem?_claimRun (lo count : Nat) :
    ∀ (k : Nat) (bs : List Bool) (j : Nat),
      (claimRun lo count k bs)[j]? = bs[j]?.map (· || decide (lo ≤ j + k ∧ j + k < lo + count))
  | _, [], _ => rfl
  | k, _ :: _, 0 => by simp [claimRun]
  | k, _ :: rest, j + 1 => by
    simp only [claimRun, List.getElem?_cons_succ, getElem?_claimRun lo count (k + 1) rest j]
    rw [show j + (k + 1) = j + 1 + k by omega]

/-- Past the run the loop changes nothing. -/
theorem claimRun_of_le (lo count : Nat) :
    ∀ (k : Nat) (bs : List Bool), lo + count ≤ k → claimRun lo count k bs = bs
  | _, [], _ => rfl
  | k, b :: rest, le => by
    rw [claimRun, claimRun_of_le lo count (k + 1) rest (by omega),
      decide_eq_false (show ¬(lo ≤ k ∧ k < lo + count) by omega), Bool.or_false]

/-! ## The search -/

/-- The bits of `[s, s + n)` are all set. -/
def AllSet (bitmap : List Bool) (s n : Nat) : Prop :=
  ∀ k, s ≤ k → k < s + n → bitmap[k]? = some true

/-- The scan from `s` over `n` indices inside the bitmap: it meets no clear bit, or it
stops at the first clear one. -/
theorem searchGroupIds_range' (bitmap : List Bool) (groupCnt : Nat) :
    ∀ (s n : Nat), s + n ≤ bitmap.length →
      (AllSet bitmap s n ∧
        searchGroupIds bitmap groupCnt (List.range' s n) = (bitmap, none, 0)) ∨
      ∃ i, s ≤ i ∧ i < s + n ∧ bitmap[i]? = some false ∧ AllSet bitmap s (i - s) ∧
        searchGroupIds bitmap groupCnt (List.range' s n) =
          if bitmap.length ≤ i + groupCnt then (bitmap, none, -1)
          else (claimRun i groupCnt 0 bitmap, some i, 0)
  | s, 0, _ => .inl ⟨fun _ _ _ => by omega, rfl⟩
  | s, n + 1, inside => by
    have lt : s < bitmap.length := by omega
    rw [List.range'_succ]
    by_cases clear : bitmap[s]? = some false
    · refine .inr ⟨s, le_rfl, by omega, clear, fun _ _ _ => by omega, ?_⟩
      simp only [searchGroupIds, if_pos clear]
    · have set : bitmap[s]? = some true := by
        rw [List.getElem?_eq_getElem lt] at clear ⊢
        simpa using clear
      simp only [searchGroupIds, if_neg clear]
      rcases searchGroupIds_range' bitmap groupCnt (s + 1) n (by omega) with
        ⟨rest, eq⟩ | ⟨i, lo, hi, clear', before, eq⟩
      · refine .inl ⟨fun k lo hi => ?_, eq⟩
        rcases Nat.eq_or_lt_of_le lo with rfl | lt'
        · exact set
        · exact rest k lt' (by omega)
      · refine .inr ⟨i, by omega, by omega, clear', fun k lo' hi' => ?_, eq⟩
        rcases Nat.eq_or_lt_of_le lo' with rfl | lt'
        · exact set
        · exact before k lt' (by omega)

/-- The three outcomes of `get_start_group_id` for a non-zero count: every bit set and
nothing written, or the first clear bit `i` refused, or `[i, i + group_cnt)` claimed. -/
theorem getStartGroupId_cases (bitmap : List Bool) {groupCnt : Nat} (pos : 0 < groupCnt) :
    (AllSet bitmap 0 bitmap.length ∧ getStartGroupId bitmap groupCnt = (bitmap, none, 0)) ∨
      ∃ i, i < bitmap.length ∧ bitmap[i]? = some false ∧ AllSet bitmap 0 i ∧
        getStartGroupId bitmap groupCnt =
          if bitmap.length ≤ i + groupCnt then (bitmap, none, -1)
          else (claimRun i groupCnt 0 bitmap, some i, 0) := by
  unfold getStartGroupId
  rw [if_neg (Nat.pos_iff_ne_zero.mp pos), List.range_eq_range']
  simpa using searchGroupIds_range' bitmap groupCnt 0 bitmap.length (by omega)

/-- A refusal changes no bit and writes nothing. -/
theorem getStartGroupId_refused {bitmap : List Bool} {groupCnt : Nat}
    {r : List Bool × Option Nat × Int} (call : getStartGroupId bitmap groupCnt = r)
    (refused : r.2.2 = -1) : r.1 = bitmap ∧ r.2.1 = none := by
  subst call
  by_cases zero : groupCnt = 0
  · simp [getStartGroupId, zero] at refused
  rcases getStartGroupId_cases bitmap (Nat.pos_of_ne_zero zero) with
    ⟨-, eq⟩ | ⟨i, -, -, -, eq⟩
  · rw [eq] at refused
    simp at refused
  · rw [eq] at refused ⊢
    by_cases over : bitmap.length ≤ i + groupCnt
    · rw [if_pos over]
      exact ⟨rfl, rfl⟩
    · rw [if_neg over] at refused
      simp at refused

/-- A grant of start `s`: the run fits below `MAX_GROUP_ID`, bit `s` was clear, and the
new bitmap is the old one with `[s, s + group_cnt)` set. -/
theorem getStartGroupId_written {bitmap : List Bool} {groupCnt s : Nat}
    {r : List Bool × Option Nat × Int} (call : getStartGroupId bitmap groupCnt = r)
    (written : r.2.1 = some s) :
    s + groupCnt < bitmap.length ∧ bitmap[s]? = some false ∧ r.2.2 = 0 ∧
      r.1 = claimRun s groupCnt 0 bitmap := by
  subst call
  by_cases zero : groupCnt = 0
  · simp [getStartGroupId, zero] at written
  rcases getStartGroupId_cases bitmap (Nat.pos_of_ne_zero zero) with
    ⟨-, eq⟩ | ⟨i, -, clear, -, eq⟩
  · rw [eq] at written
    cases written
  · rw [eq] at written ⊢
    by_cases over : bitmap.length ≤ i + groupCnt
    · rw [if_pos over] at written
      cases written
    · rw [if_neg over] at written ⊢
      cases written
      exact ⟨by omega, clear, rfl, rfl⟩

/-! ## Where the search goes wrong -/

theorem start_group_id_overclaims (n count : Nat) :
    getStartGroupId (List.replicate n true) (count + 1) = (List.replicate n true, none, 0) ∧
      getStartGroupId (false :: true :: List.replicate (n + 1) false) 2 =
        (true :: true :: List.replicate (n + 1) false, some 0, 0) := by
  constructor
  · rcases getStartGroupId_cases (List.replicate n true) (Nat.succ_pos count) with
      ⟨-, eq⟩ | ⟨i, -, clear, -, -⟩
    · exact eq
    · simp [List.getElem?_replicate] at clear
  · rcases getStartGroupId_cases (false :: true :: List.replicate (n + 1) false)
      (show 0 < 2 by decide) with
      ⟨full, -⟩ | ⟨i, -, clear, before, eq⟩
    · cases full 0 le_rfl (by simp)
    · have first : i = 0 :=
        Nat.eq_zero_of_not_pos fun pos => by cases before 0 le_rfl (by omega)
      subst first
      rw [eq, if_neg (by simp), claimRun, claimRun, claimRun_of_le 0 2 2 _ le_rfl]
      rfl

/-- A run of `group_cnt` clear bits that stops short of the last bit is granted. -/
theorem getStartGroupId_of_run {bitmap : List Bool} {groupCnt s : Nat} (pos : 0 < groupCnt)
    (fits : s + groupCnt < bitmap.length)
    (free : ∀ k, s ≤ k → k < s + groupCnt → bitmap[k]? = some false) :
    (getStartGroupId bitmap groupCnt).2.2 = 0 := by
  rcases getStartGroupId_cases bitmap pos with ⟨full, eq⟩ | ⟨i, -, -, before, eq⟩
  · rw [eq]
  · have first : i ≤ s := by
      refine Nat.le_of_not_lt fun lt => ?_
      have := before s (Nat.zero_le s) (by omega)
      rw [free s le_rfl (by omega)] at this
      cases this
    rw [eq, if_neg (by omega)]

theorem tail_run_refused (n count : Nat) :
    getStartGroupId (List.replicate n true ++ List.replicate (count + 1) false) (count + 1) =
      (List.replicate n true ++ List.replicate (count + 1) false, none, -1) := by
  rcases getStartGroupId_cases (List.replicate n true ++ List.replicate (count + 1) false)
    (Nat.succ_pos count) with ⟨full, -⟩ | ⟨i, lt, clear, before, eq⟩
  · have := full n (Nat.zero_le n) (by simp)
    rw [List.getElem?_append_right (by simp)] at this
    simp [List.getElem?_replicate] at this
  · have : i = n := by
      refine le_antisymm (Nat.le_of_not_lt fun gt => ?_) (Nat.le_of_not_lt fun lt' => ?_)
      · have := before n (Nat.zero_le n) (by omega)
        rw [List.getElem?_append_right (by simp)] at this
        simp [List.getElem?_replicate] at this
      · rw [List.getElem?_append_left (by simpa using lt')] at clear
        simp [List.getElem?_replicate] at clear
    subst this
    rw [eq, if_pos (by simp)]

end SimulatorV3_1

end AipuUmd
