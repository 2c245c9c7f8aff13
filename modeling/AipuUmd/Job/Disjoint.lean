import AipuUmd.Job.Alloc
import Mathlib.Data.List.Pairwise

/-!
# Buffers that share no memory

The vocabulary of the sharing results, and what the allocation loops guarantee of it.

* `BufferDesc.Disjoint`: two buffers share no memory. Distinct allocations are
  disjoint, and so are views of one allocation over disjoint ranges.
* `FreshIn bs lo hi`: the buffers `bs` are allocations with ids in `[lo, hi)`, no two
  alike. The memory manager hands out ids in increasing order, so the buffers of a
  loop of allocations are fresh (`allocSections_fresh`, `allocTasks_fresh`), and
  fresh buffers made one after the other stay fresh together (`FreshIn.append`).
-/

namespace AipuUmd

/-! ## Disjointness -/

/-- Two buffers share no memory: distinct allocations, a view and an allocation other
than its base, or views of one allocation over disjoint ranges. Nothing is known of
addresses the caller supplied. -/
def BufferDesc.Disjoint : BufferDesc → BufferDesc → Prop
  | .owned a _, .owned b _ => a ≠ b
  | .owned a _, .view b _ _ | .view b _ _, .owned a _ => a ≠ b
  | .view a o s, .view b p t => a ≠ b ∨ o + s ≤ p ∨ p + t ≤ o
  | _, _ => False

instance : DecidableRel BufferDesc.Disjoint := fun a b => by
  cases a <;> cases b <;> unfold BufferDesc.Disjoint <;> infer_instance

theorem BufferDesc.Disjoint.symm {a b : BufferDesc} (h : a.Disjoint b) : b.Disjoint a := by
  cases a <;> cases b <;> simp only [BufferDesc.Disjoint] at h ⊢ <;> omega

/-- Views of one allocation, the first ending where the second may begin. -/
theorem BufferDesc.disjoint_of_view_le {base o s p t : Nat} (le : o + s ≤ p) :
    (BufferDesc.view base o s).Disjoint (.view base p t) :=
  .inr (.inl le)

/-- The buffers of a task: its stack and its private data. -/
def Task.buffers (t : Task) : List BufferDesc := t.stack.toList ++ t.privateData.toList

/-- No buffer of one task overlaps a buffer of the other. -/
def Task.Apart (t u : Task) : Prop := ∀ a ∈ t.buffers, ∀ b ∈ u.buffers, a.Disjoint b

instance (t u : Task) : Decidable (t.Apart u) := by
  unfold Task.Apart
  infer_instance

/-- The buffers of a list of tasks. -/
def taskBuffers (ts : List Task) : List BufferDesc := ts.flatMap Task.buffers

/-- Every task of one list is apart from every task of the other. -/
def TasksApart (ts us : List Task) : Prop := ∀ t ∈ ts, ∀ u ∈ us, t.Apart u

theorem TasksApart.of_buffers {ts us : List Task}
    (h : ∀ a ∈ taskBuffers ts, ∀ b ∈ taskBuffers us, a.Disjoint b) : TasksApart ts us :=
  fun t ht u hu a ha b hb =>
    h a (List.mem_flatMap.mpr ⟨t, ht, ha⟩) b (List.mem_flatMap.mpr ⟨u, hu, hb⟩)

/-- No subgraph in `(i, k]` is PRE_ALL. -/
def Graph.NoPreallBetween (g : Graph) (i k : Nat) : Prop :=
  ∀ p, i < p → p ≤ k → (g.subgraph p).precursorCnt ≠ subgDependPreall

theorem Graph.NoPreallBetween.shrink {g : Graph} {i k k' : Nat} (h : g.NoPreallBetween i k)
    (le : k' ≤ k) : g.NoPreallBetween i k' :=
  fun p lo hi => h p lo (hi.trans le)

/-! ## Fresh allocations -/

/-- `b` is an allocation with an id in `[lo, hi)`. -/
def BufferDesc.OwnedIn (lo hi : Nat) (b : BufferDesc) : Prop :=
  ∃ id size, b = .owned id size ∧ lo ≤ id ∧ id < hi

theorem BufferDesc.OwnedIn.disjoint {a b : BufferDesc} {lo mid mid' hi : Nat}
    (ha : a.OwnedIn lo mid) (hb : b.OwnedIn mid' hi) (le : mid ≤ mid') : a.Disjoint b := by
  obtain ⟨x, _, rfl, -, hx⟩ := ha
  obtain ⟨y, _, rfl, hy, -⟩ := hb
  show x ≠ y
  omega

theorem BufferDesc.OwnedIn.mono {b : BufferDesc} {lo hi lo' hi' : Nat} (h : b.OwnedIn lo hi)
    (hlo : lo' ≤ lo) (hhi : hi ≤ hi') : b.OwnedIn lo' hi' := by
  obtain ⟨x, size, rfl, h1, h2⟩ := h
  exact ⟨x, size, rfl, by omega, by omega⟩

/-- Fresh allocations: ids in `[lo, hi)`, no two overlapping. -/
structure FreshIn (bs : List BufferDesc) (lo hi : Nat) : Prop where
  owned : ∀ b ∈ bs, b.OwnedIn lo hi
  apart : bs.Pairwise BufferDesc.Disjoint

theorem FreshIn.nil (lo hi : Nat) : FreshIn [] lo hi := ⟨by simp, .nil⟩

/-- A fresh allocation followed by fresh allocations made after it. -/
theorem FreshIn.cons {b : BufferDesc} {bs : List BufferDesc} {lo mid hi : Nat}
    (first : b.OwnedIn lo mid) (rest : FreshIn bs mid hi) (le : mid ≤ hi) :
    FreshIn (b :: bs) lo hi := by
  have below : lo ≤ mid := by obtain ⟨_, _, _, h1, h2⟩ := first; omega
  refine ⟨?_, List.pairwise_cons.mpr
    ⟨fun c hc => first.disjoint (rest.owned c hc) le_rfl, rest.apart⟩⟩
  intro c hc
  rcases List.mem_cons.mp hc with rfl | hc
  · exact first.mono le_rfl le
  · exact (rest.owned c hc).mono below le_rfl

/-- Fresh allocations followed by fresh allocations made after them. -/
theorem FreshIn.append {xs ys : List BufferDesc} {lo mid hi : Nat} (first : FreshIn xs lo mid)
    (rest : FreshIn ys mid hi) (lo_le : lo ≤ mid) (le_hi : mid ≤ hi) :
    FreshIn (xs ++ ys) lo hi := by
  refine ⟨fun b hb => ?_, List.pairwise_append.mpr ⟨first.apart, rest.apart,
    fun a ha b hb => (first.owned a ha).disjoint (rest.owned b hb) le_rfl⟩⟩
  rcases List.mem_append.mp hb with hb | hb
  · exact (first.owned b hb).mono le_rfl le_hi
  · exact (rest.owned b hb).mono lo_le le_rfl

/-- Fresh allocations gathered entry by entry of a list are apart across entries. -/
theorem FreshIn.flatMap_apart {α : Type} {l : List α} {f : α → List BufferDesc} {lo hi : Nat}
    (fresh : FreshIn (l.flatMap f) lo hi) {a b : α} (ha : a ∈ l) (hb : b ∈ l) (ne : a ≠ b) :
    ∀ x ∈ f a, ∀ y ∈ f b, x.Disjoint y := by
  have symm : Symmetric fun a₁ a₂ => ∀ x ∈ f a₁, ∀ y ∈ f a₂, x.Disjoint y :=
    fun _ _ h c hc d hd => (h d hd c hc).symm
  exact (List.pairwise_flatMap.mp fresh.apart).2.forall symm ha hb ne

/-! ## What the allocation loops hand out -/

/-- The section loop allocates fresh buffers, up to its first failure. -/
theorem allocSections_fresh (mem : MemMgr) (secs : List SectionDesc) :
    mem.nextId ≤ (allocSections mem secs).1.nextId ∧
      FreshIn (allocSections mem secs).2.1 mem.nextId (allocSections mem secs).1.nextId := by
  induction secs generalizing mem with
  | nil => exact ⟨le_rfl, .nil _ _⟩
  | cons sec rest ih =>
    simp only [allocSections]
    by_cases empty : sec.size = 0
    · rw [if_pos empty]
      exact ih mem
    · rw [if_neg empty]
      rcases mem.malloc_cases sec.size with fails | gives
      · rw [fails]
        exact ⟨le_rfl, .nil _ _⟩
      · rw [gives]
        generalize hm : ({ mem with
          outcomes := mem.outcomes.tail, nextId := mem.nextId + 1,
          live := mem.live ++ [mem.nextId] } : MemMgr) = mem₁
        have next₁ : mem₁.nextId = mem.nextId + 1 := by rw [← hm]
        obtain ⟨grows, fresh⟩ := ih mem₁
        dsimp only
        exact ⟨by omega, FreshIn.cons ⟨_, _, rfl, le_rfl, by omega⟩ fresh grows⟩

/-- The task loop of a subgraph, when it succeeds, gives it `n` tasks whose stacks and
private data are fresh allocations. -/
theorem allocTasks_fresh (stackSize dpSize : Nat) (mem : MemMgr) (n : Nat)
    (ok : (allocTasks stackSize dpSize mem n).2.2 = .success) :
    (allocTasks stackSize dpSize mem n).2.1.length = n ∧
      mem.nextId ≤ (allocTasks stackSize dpSize mem n).1.nextId ∧
      FreshIn (taskBuffers (allocTasks stackSize dpSize mem n).2.1) mem.nextId
        (allocTasks stackSize dpSize mem n).1.nextId := by
  induction n generalizing mem with
  | zero => exact ⟨rfl, le_rfl, .nil _ _⟩
  | succ n ih =>
    simp only [allocTasks] at ok ⊢
    rcases mem.malloc_cases stackSize with fails | gives
    · rw [fails] at ok
      simp at ok
    rw [gives] at ok ⊢
    dsimp only at ok ⊢
    by_cases nodp : dpSize = 0
    · rw [if_pos nodp] at ok ⊢
      dsimp only at ok ⊢
      obtain ⟨len, grows, fresh⟩ := ih _ ok
      dsimp only at grows fresh
      refine ⟨by simp [len], by omega, ?_⟩
      exact FreshIn.cons ⟨_, _, rfl, le_rfl, by omega⟩ fresh grows
    · rw [if_neg nodp] at ok ⊢
      generalize hm : ({ mem with
        outcomes := mem.outcomes.tail, nextId := mem.nextId + 1,
        live := mem.live ++ [mem.nextId] } : MemMgr) = mem₁ at ok ⊢
      have next₁ : mem₁.nextId = mem.nextId + 1 := by rw [← hm]
      rcases mem₁.malloc_cases dpSize with fails | gives'
      · rw [fails] at ok
        simp at ok
      rw [gives'] at ok ⊢
      dsimp only at ok ⊢
      obtain ⟨len, grows, fresh⟩ := ih _ ok
      dsimp only at grows fresh
      refine ⟨by simp [len], by omega, ?_⟩
      exact FreshIn.cons ⟨_, _, rfl, le_rfl, by omega⟩
        (FreshIn.cons ⟨_, _, rfl, le_rfl, by omega⟩ fresh grows) (by omega)

end AipuUmd
