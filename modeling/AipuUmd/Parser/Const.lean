import AipuUmd.Parser.Bss

/-!
# The const tables of a BSS

Where does `parse_bss_section` put the static sections of a BSS? Each goes into one of
two tables: the zero-copy table when `section_ir.type` is
`SECTION_TYPE_ZEROCPY_CONSTANT`, the const table otherwise. A table has a running start,
`cst_start_addr` or `zerocpy_cst_start_addr`, both `uint32_t`: a section is placed at the
start rounded up to its `align_bytes`, and the start moves to the section's end. After
the loop `set_const_size` records the two starts as the tables' sizes, a const size of 0
as 4096.

`section_ir.type` is `sub_desc_load.type`, the type of the last sub-section read, so a
static section without sub-sections takes the type its predecessor left. The value of
`SECTION_TYPE_ZEROCPY_CONSTANT` is not in the repository and is a parameter.

* `ConstTable.Laid`: what one placement keeps. The start stays a `uint32_t`, every
  section starts at a multiple of its alignment, and while no section ends at or past
  `2^32` the sections lie one after the other, all before the start.
* `bssConstTables_laid`: for every BSS whose static sections have non-zero alignments,
  the sections of each table are aligned, and they lie inside `[0, size)` for the size
  `set_const_size` records exactly when none of them ends at or past `2^32`. Then they
  are also pairwise disjoint. On a wrap the running start falls back below the sections
  already placed.
-/

namespace AipuUmd

/-! ## Placing one section -/

/-- Modelled from the spec: `aligned(addr, align)` is not in the repository. The spec
places a section at the running start "aligned to its own alignment": the least multiple
of `align` at or after `addr`, and `addr` itself for an alignment of 0. -/
def aligned (addr align : Nat) : Nat :=
  if align = 0 then addr else (addr + align - 1) / align * align

theorem le_aligned (addr align : Nat) : addr ≤ aligned addr align := by
  unfold aligned
  split
  · exact le_rfl
  · have above := Nat.lt_div_mul_add (a := addr + align - 1) (Nat.pos_of_ne_zero ‹_›)
    omega

theorem dvd_aligned (addr : Nat) {align : Nat} (nonZero : align ≠ 0) :
    align ∣ aligned addr align := by
  rw [aligned, if_neg nonZero]
  exact Nat.dvd_mul_left align _

/-- A section in a table: its `slot_index`, `relative_addr` and `size`, and the
`align_bytes` its place was rounded to. -/
structure ConstSection where
  slotIndex : Nat
  relativeAddr : Nat
  size : Nat
  alignBytes : Nat
deriving DecidableEq, Repr

/-- One table: its running start and its sections, in the order they were placed. The
table is a map by `slot_index`, and the slots of one BSS are distinct. -/
structure ConstTable where
  start : Nat
  sections : List ConstSection
deriving DecidableEq, Repr

/-- One section placed: at the start rounded up to `align_bytes`, the start then moved
to its end, modulo `2^32`. -/
def ConstTable.add (t : ConstTable) (slot size alignBytes : Nat) : ConstTable :=
  let addr := aligned t.start alignBytes
  ⟨(addr + size) % 2 ^ 32, t.sections ++ [⟨slot, addr, size, alignBytes⟩]⟩

/-- The two tables of a BSS. -/
structure ConstTables where
  const : ConstTable
  zerocpy : ConstTable
deriving DecidableEq, Repr

/-- The placement half of the static loop of `parse_bss_section`, from section `slot` on,
with `last` the `sub_desc_load` the previous section left. -/
def placeStatics (zerocpyType : Nat) :
    Nat → SubSectionDesc → List (BssStaticSectionDesc × List (SubSectionDesc × List Nat)) →
      ConstTables → ConstTables
  | _, _, [], c => c
  | slot, last, (d, subs) :: rest, c =>
    let last := (subs.getLast?.map Prod.fst).getD last
    let c := if last.type = zerocpyType then { c with zerocpy := c.zerocpy.add slot d.size d.alignBytes }
      else { c with const := c.const.add slot d.size d.alignBytes }
    placeStatics zerocpyType (slot + 1) last rest c

/-- `GraphV3X::set_const_size`: the two sizes it records, a const size of 0 as 4096. -/
def setConstSize (constSize zerocpyConstSize : Nat) : Nat × Nat :=
  (if constSize = 0 then 4096 else constSize, zerocpyConstSize)

/-- The static descriptors of the BSS at `bss` with their sub-sections, as the walk reads
them; on a BSS the parser accepts they are all of them (`parseBssSection_spec`). -/
def staticStream (L : BinLayout) (mem : Nat → UInt8) (bss : Nat) :
    List (BssStaticSectionDesc × List (SubSectionDesc × List Nat)) :=
  (readDescs L mem L.staticDescSize L.staticDesc (·.subSectionCnt) (bss + L.headerSize)
    (L.header (bytesAt mem bss L.headerSize)).staticSectionDescCnt).1

/-- The tables `parse_bss_section` fills for the BSS at `bss`. -/
def bssConstTables (L : BinLayout) (mem : Nat → UInt8) (bss zerocpyType : Nat) : ConstTables :=
  placeStatics zerocpyType 0 .zero (staticStream L mem bss) ⟨⟨0, []⟩, ⟨0, []⟩⟩

/-! ## A table as the spec lays it out -/

/-- No section of the table ends at or past `2^32`. -/
def ConstTable.NoWrap (t : ConstTable) : Prop :=
  ∀ sec ∈ t.sections, sec.relativeAddr + sec.size < 2 ^ 32

/-- Section `a` ends at or before section `b` starts. -/
def ConstSection.Before (a b : ConstSection) : Prop :=
  a.relativeAddr + a.size ≤ b.relativeAddr

/-- What every placement keeps. -/
structure ConstTable.Laid (t : ConstTable) : Prop where
  start_lt : t.start < 2 ^ 32
  aligned : ∀ sec ∈ t.sections, sec.alignBytes ∣ sec.relativeAddr
  ordered : t.NoWrap →
    t.sections.Pairwise ConstSection.Before ∧ ∀ sec ∈ t.sections, sec.relativeAddr + sec.size ≤ t.start

theorem ConstTable.laid_empty : (⟨0, []⟩ : ConstTable).Laid :=
  ⟨by decide, nofun, fun _ => ⟨List.Pairwise.nil, nofun⟩⟩

/-- Placing a section with a non-zero alignment keeps a table laid out. -/
theorem ConstTable.Laid.add {t : ConstTable} (laid : t.Laid) (slot size : Nat) {alignBytes : Nat}
    (nonZero : alignBytes ≠ 0) : (t.add slot size alignBytes).Laid := by
  refine ⟨Nat.mod_lt _ (by decide), ?_, fun noWrap => ?_⟩
  · rw [ConstTable.add, List.forall_mem_append, List.forall_mem_singleton]
    exact ⟨laid.aligned, dvd_aligned t.start nonZero⟩
  · simp only [ConstTable.NoWrap, ConstTable.add, List.forall_mem_append,
      List.forall_mem_singleton] at noWrap
    obtain ⟨pairwise, within⟩ := laid.ordered noWrap.1
    have start := le_aligned t.start alignBytes
    simp only [ConstTable.add, Nat.mod_eq_of_lt noWrap.2, List.pairwise_append, List.pairwise_singleton,
      List.forall_mem_append, List.forall_mem_singleton, ConstSection.Before]
    exact ⟨⟨pairwise, trivial, fun a mem => (within a mem).trans start⟩,
      fun a mem => (within a mem).trans (start.trans (Nat.le_add_right _ _)), le_rfl⟩

/-- The sections of a laid-out table lie below any size at or past its start and below
`2^32` exactly when none ends at or past `2^32`. -/
theorem ConstTable.Laid.within_iff {t : ConstTable} (laid : t.Laid) {size : Nat}
    (past : t.start ≤ size) (fits : size < 2 ^ 32) :
    (∀ sec ∈ t.sections, sec.relativeAddr + sec.size ≤ size) ↔ t.NoWrap :=
  ⟨fun within sec mem => (within sec mem).trans_lt fits,
    fun noWrap sec mem => ((laid.ordered noWrap).2 sec mem).trans past⟩

/-- The static loop keeps both tables laid out. -/
theorem placeStatics_laid (zerocpyType : Nat) :
    ∀ (slot : Nat) (last : SubSectionDesc)
      (statics : List (BssStaticSectionDesc × List (SubSectionDesc × List Nat))) (c : ConstTables),
      (∀ e ∈ statics, e.1.alignBytes ≠ 0) → c.const.Laid → c.zerocpy.Laid →
      (placeStatics zerocpyType slot last statics c).const.Laid ∧
        (placeStatics zerocpyType slot last statics c).zerocpy.Laid
  | _, _, [], _, _, const, zerocpy => ⟨const, zerocpy⟩
  | slot, last, (d, subs) :: rest, c, aligns, const, zerocpy => by
    rw [List.forall_mem_cons] at aligns
    unfold placeStatics
    dsimp only
    split
    · exact placeStatics_laid zerocpyType _ _ rest _ aligns.2 const (zerocpy.add slot d.size aligns.1)
    · exact placeStatics_laid zerocpyType _ _ rest _ aligns.2 (const.add slot d.size aligns.1) zerocpy

/-! ## The tables of a BSS -/

/-- For every BSS whose static sections have non-zero `align_bytes`, every section of
the two tables starts at a multiple of its alignment. The sections of a table lie inside
`[0, size)`, for the size `set_const_size` records, exactly when none of them ends at or
past `2^32`, and then they are pairwise disjoint, each ending before the next starts. -/
theorem bssConstTables_laid (L : BinLayout) (mem : Nat → UInt8) (bss zerocpyType : Nat)
    (aligns : ∀ e ∈ staticStream L mem bss, e.1.alignBytes ≠ 0) :
    let c := bssConstTables L mem bss zerocpyType
    let sizes := setConstSize c.const.start c.zerocpy.start
    (∀ sec ∈ c.const.sections ++ c.zerocpy.sections, sec.alignBytes ∣ sec.relativeAddr) ∧
      ((∀ sec ∈ c.const.sections, sec.relativeAddr + sec.size ≤ sizes.1) ↔ c.const.NoWrap) ∧
      ((∀ sec ∈ c.zerocpy.sections, sec.relativeAddr + sec.size ≤ sizes.2) ↔ c.zerocpy.NoWrap) ∧
      (c.const.NoWrap → c.const.sections.Pairwise ConstSection.Before) ∧
      (c.zerocpy.NoWrap → c.zerocpy.sections.Pairwise ConstSection.Before) := by
  intro c sizes
  obtain ⟨const, zerocpy⟩ := placeStatics_laid zerocpyType 0 .zero _ ⟨⟨0, []⟩, ⟨0, []⟩⟩ aligns
    ConstTable.laid_empty ConstTable.laid_empty
  have constSize : c.const.start ≤ sizes.1 ∧ sizes.1 < 2 ^ 32 := by
    have lt : c.const.start < 2 ^ 32 := const.start_lt
    simp only [sizes, setConstSize]
    split <;> omega
  refine ⟨List.forall_mem_append.mpr ⟨const.aligned, zerocpy.aligned⟩,
    const.within_iff constSize.1 constSize.2, zerocpy.within_iff le_rfl zerocpy.start_lt,
    fun noWrap => (const.ordered noWrap).1, fun noWrap => (zerocpy.ordered noWrap).1⟩

/-- The four bytes of word `i` of a descriptor, read little-endian. -/
def word (bs : List UInt8) (i : Nat) : Nat :=
  u32 ((bs.drop (4 * i)).take 4)

/-- A layout in which every field the parser reads is a 32-bit word: a header of four
words, static descriptors of four (size, alignment, file offset, sub-section count),
reuse descriptors of three (size, alignment, sub-section count) and sub-sections of
three (type, word count, offset). -/
def wordLayout : BinLayout where
  headerSize := 16
  staticDescSize := 16
  reuseDescSize := 12
  subDescSize := 12
  header bs := ⟨word bs 0, word bs 1, word bs 2, word bs 3⟩
  staticDesc bs := ⟨word bs 0, word bs 1, word bs 2, word bs 3⟩
  reuseDesc bs := ⟨word bs 0, word bs 1, word bs 2⟩
  subDesc bs := ⟨word bs 0, word bs 1, word bs 2, 0, 0, 0, 0, 0, 0⟩
  sectionType n := .other n
  alignAddr n := n

/-- Memory holding the words `ws` from address 0, little-endian. -/
def wordsMem (ws : List Nat) (a : Nat) : UInt8 :=
  UInt8.ofNat (ws.getD (a / 4) 0 / 256 ^ (a % 4))

/-- A BSS at 0 with three static sections of `2^31`, `2^31` and 16 bytes, all aligned to
1 and without sub-sections, and one reuse section of 16 bytes. -/
def wrapBss : Nat → UInt8 :=
  wordsMem [1, 1, 3, 1, 2 ^ 31, 1, 0, 0, 2 ^ 31, 1, 0, 0, 16, 1, 0, 0, 16, 1, 0]

/-- The parser accepts `wrapBss`. The second section ends at `2^32`, so the start wraps
to 0 and the third section is placed at 0, over the first; the const size recorded is
16, and the sections do not lie inside `[0, 16)`. -/
theorem const_sections_wrap_onto_first :
    ((⟨0, 0⟩ : ParserBase).parseBssSection wordLayout wrapBss 0 60 0 oneWordGraph).map
        BssParse.status = .ok .success ∧
      (bssConstTables wordLayout wrapBss 0 2).const.sections =
        [⟨0, 0, 2 ^ 31, 1⟩, ⟨1, 2 ^ 31, 2 ^ 31, 1⟩, ⟨2, 0, 16, 1⟩] ∧
      setConstSize (bssConstTables wordLayout wrapBss 0 2).const.start
        (bssConstTables wordLayout wrapBss 0 2).zerocpy.start = (16, 0) ∧
      ¬∀ sec ∈ (bssConstTables wordLayout wrapBss 0 2).const.sections,
        sec.relativeAddr + sec.size ≤ (setConstSize (bssConstTables wordLayout wrapBss 0 2).const.start
          (bssConstTables wordLayout wrapBss 0 2).zerocpy.start).1 := by
  have aligns : ∀ e ∈ staticStream wordLayout wrapBss 0, e.1.alignBytes ≠ 0 := by decide
  have wraps : ¬(bssConstTables wordLayout wrapBss 0 2).const.NoWrap := by
    simp only [ConstTable.NoWrap]
    decide
  exact ⟨rfl, rfl, rfl, fun within =>
    wraps (((bssConstTables_laid wordLayout wrapBss 0 2 aligns).2.1).mp within)⟩

end AipuUmd
