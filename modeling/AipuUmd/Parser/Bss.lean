import AipuUmd.Parser.Io

/-!
# `parse_bss_section`

`ParserBase::parse_bss_section(bss, size, bss_id, gobj, next)` reads a `BSSHeader` at
`bss`, then a stream of descriptors: `static_section_desc_cnt` static descriptors, then
`reuse_section_desc_cnt` reuse descriptors, each followed by its `sub_section_cnt`
`SubSectionDesc`s, each of those by its `offset_in_ro_cnt` 32-bit words. Every piece of
the stream is checked with `umd_is_valid_ptr` against `[bss, bss + sizeof(BSSHeader) +
size)` before it is copied; a piece outside ends the walk with `INVALID_GBIN`
(`goto overflow`), keeping what was already added to the graph.

Every word adds a parameter entry to BSS 0, every I/O sub-section of a reuse section an
I/O tensor to BSS 0, every descriptor a section to BSS `bss_id`. The declarations of
`BSSHeader`, `BSSStaticSectionDesc`, `BSSReuseSectionDesc` and `SubSectionDesc`, the
values of `SECTION_TYPE_*` and the macro `ALIGN_ADDR` are not in the repository: they
are the parameters of a `BinLayout`. Memory is a map from addresses to bytes, words are
read little-endian.

The stream the counts describe is read on its own, without a bound, by `readDescs`;
`parseBssSection_spec` says the parser accepts exactly when that stream ends inside the
section, and then adds exactly the entries and tensors the stream describes.
-/

namespace AipuUmd

/-! ## The binary -/

/-- The fields of `BSSHeader` the parser reads. -/
structure BssHeader where
  stackSize : Nat
  stackAlignBytes : Nat
  staticSectionDescCnt : Nat
  reuseSectionDescCnt : Nat
deriving DecidableEq, Repr

/-- The fields of `BSSStaticSectionDesc` the parser reads. -/
structure BssStaticSectionDesc where
  size : Nat
  alignBytes : Nat
  offsetInFile : Nat
  subSectionCnt : Nat
deriving DecidableEq, Repr

/-- The fields of `BSSReuseSectionDesc` the parser reads. -/
structure BssReuseSectionDesc where
  size : Nat
  alignBytes : Nat
  subSectionCnt : Nat
deriving DecidableEq, Repr

/-- What the parser knows of the binary format: the sizes of the descriptor structs,
how their fields are read from their bytes, what `SECTION_TYPE_*` each type word is, and
`ALIGN_ADDR`. -/
structure BinLayout where
  headerSize : Nat
  staticDescSize : Nat
  reuseDescSize : Nat
  subDescSize : Nat
  header : List UInt8 → BssHeader
  staticDesc : List UInt8 → BssStaticSectionDesc
  reuseDesc : List UInt8 → BssReuseSectionDesc
  subDesc : List UInt8 → SubSectionDesc
  sectionType : Nat → SectionType
  alignAddr : Nat → Nat

/-- The `n` bytes at `addr`. -/
def bytesAt (mem : Nat → UInt8) (addr n : Nat) : List UInt8 :=
  (List.range n).map fun k => mem (addr + k)

/-- `*(uint32_t*)p` on a little-endian host. -/
def u32 (bytes : List UInt8) : Nat :=
  bytes.foldr (fun b acc => b.toNat + 256 * acc) 0

/-- Modelled from the spec: `umd_is_valid_ptr(lb, ub, ptr, size)` is not in the
repository. The spec fails a walk on an out-of-range pointer, so a piece is valid when
it lies inside `[lb, ub)`. -/
def umdIsValidPtr (lb ub ptr size : Nat) : Bool :=
  decide (lb ≤ ptr ∧ ptr + size ≤ ub)

/-! ## The graph the parser fills -/

/-- `GraphParamMapLoadDesc`: the word `offset_in_ro`, the load type, the sub-section
type, the buffer index, the sub-section index, its offset and its address mask. -/
structure GraphParamMapLoadDesc where
  offsetInRo : Nat
  loadType : ParamLoadType
  sectionType : Nat
  bufIdx : Nat
  subSectionIdx : Nat
  offsetInSection : Nat
  addrMask : Nat
deriving DecidableEq, Repr

/-- `GraphSectionDesc` as `parse_bss_section` fills it; `sub_sections` keeps the offset
of each sub-section. The fields a reuse section leaves to `section_ir.init()` are 0. -/
structure GraphSectionDesc where
  size : Nat
  alignInPage : Nat
  offsetInFile : Nat
  type : Nat
  slotIndex : Nat
  subSections : List Nat
deriving DecidableEq, Repr

/-- A `BSS` of `GraphV3X`, as far as the parser fills it. -/
structure GraphBss where
  stackSize : Nat
  stackAlignInPage : Nat
  paramMap : List GraphParamMapLoadDesc
  staticSections : List GraphSectionDesc
  reuseSections : List GraphSectionDesc
  io : GraphIoTensors
deriving DecidableEq, Repr, Inhabited

/-- `GraphV3X::m_bss_vec`. -/
structure GraphV3X where
  bssVec : List GraphBss
deriving DecidableEq, Repr

/-- `m_bss_vec[0]`. -/
def GraphV3X.bss0 (g : GraphV3X) : GraphBss := g.bssVec.headD default

/-- What a walk adds to the graph, by the list it goes to: parameter entries and I/O
tensors of BSS 0, static and reuse sections of BSS `bss_id`. Appends to different lists
commute, so this is the sequence of `add_param`, `fill_io_tensor_desc_inner`,
`add_static_section` and `add_reuse_section` calls. -/
structure BssAppends where
  params : List GraphParamMapLoadDesc
  ios : List (Nat × SectionType × SubSectionDesc)
  statics : List GraphSectionDesc
  reuses : List GraphSectionDesc
deriving DecidableEq, Repr

instance : Append BssAppends :=
  ⟨fun a b =>
    ⟨a.params ++ b.params, a.ios ++ b.ios, a.statics ++ b.statics, a.reuses ++ b.reuses⟩⟩

instance : EmptyCollection BssAppends := ⟨⟨[], [], [], []⟩⟩

@[simp] theorem BssAppends.append_params (a b : BssAppends) :
    (a ++ b).params = a.params ++ b.params := rfl

@[simp] theorem BssAppends.append_ios (a b : BssAppends) : (a ++ b).ios = a.ios ++ b.ios := rfl

@[simp] theorem BssAppends.empty_params : (∅ : BssAppends).params = [] := rfl

@[simp] theorem BssAppends.empty_ios : (∅ : BssAppends).ios = [] := rfl

/-- The calls on `gobj` that the appends stand for: `set_stack`, then the appends. BSS 0
also gets the reuse sections of another BSS (`add_reuse_section`). -/
def GraphV3X.apply (g : GraphV3X) (bssId stackSize stackAlign : Nat) (a : BssAppends) :
    GraphV3X :=
  let bssVec := g.bssVec.modify (fun b => { b with
    stackSize, stackAlignInPage := stackAlign,
    staticSections := b.staticSections ++ a.statics,
    reuseSections := b.reuseSections ++ a.reuses }) bssId
  let bssVec := bssVec.modify (fun b => { b with
    paramMap := b.paramMap ++ a.params,
    io := a.ios.foldl (fun io e => (fillIoTensorDescInner e.1 e.2.1 e.2.2 io).1) b.io,
    reuseSections := if bssId ≠ 0 then b.reuseSections ++ a.reuses else b.reuseSections }) 0
  ⟨bssVec⟩

/-- What the calls leave in BSS 0: the parameter entries appended, the I/O tensors
filed in order. -/
theorem GraphV3X.apply_bss0 {g : GraphV3X} (bssId stackSize stackAlign : Nat) (a : BssAppends)
    (hasBss : g.bssVec ≠ []) :
    (g.apply bssId stackSize stackAlign a).bss0.paramMap = g.bss0.paramMap ++ a.params ∧
      (g.apply bssId stackSize stackAlign a).bss0.io =
        a.ios.foldl (fun io e => (fillIoTensorDescInner e.1 e.2.1 e.2.2 io).1) g.bss0.io := by
  obtain ⟨b, rest, eq⟩ := List.exists_cons_of_ne_nil hasBss
  cases bssId <;> simp [GraphV3X.apply, GraphV3X.bss0, eq]

/-! ## The walk -/

/-- `param.init(offset_in_ro, load_type, type, buf_idx, sub_sec_iter, offset_in_section_exec,
addr_mask)`: a static entry records type 0, a reuse entry the sub-section's type. -/
def paramEntry (kind : ParamLoadType) (bufIdx subIdx : Nat) (sub : SubSectionDesc)
    (offsetInRo : Nat) : GraphParamMapLoadDesc :=
  ⟨offsetInRo, kind, if kind = .reuse then sub.type else 0, bufIdx, subIdx,
    sub.offsetInSectionExec, sub.addrMask⟩

/-- The `offset_in_ro` loop: `n` words from `addr`, each giving the entry `entry w`. The
result is the entries, where the walk stopped, and whether it went through. -/
def roEntries (mem : Nat → UInt8) (lb ub : Nat) (entry : Nat → GraphParamMapLoadDesc) :
    Nat → Nat → List GraphParamMapLoadDesc × Nat × Bool
  | addr, 0 => ([], addr, true)
  | addr, n + 1 =>
    if umdIsValidPtr lb ub addr 4 then
      let r := roEntries mem lb ub entry (addr + 4) n
      (entry (u32 (bytesAt mem addr 4)) :: r.1, r.2)
    else ([], addr, false)

/-- Where a loop of the walk stops: what it added, `section_ir.sub_sections`, the last
`sub_desc_load`, the running buffer index, `desc_load_addr`, and whether it went through
(false after `goto overflow`). -/
structure BssWalk where
  appends : BssAppends
  subSections : List Nat
  last : SubSectionDesc
  bufIdx : Nat
  addr : Nat
  ok : Bool
deriving DecidableEq, Repr

/-- The sub-section loop of a static (`kind = .static`, `bufIdx = m_static_buf_idx`) or
reuse section (`kind = .reuse`, `bufIdx = m_reuse_buf_idx`): `n` sub-sections from
`addr`, numbered from `k`. A reuse sub-section of an I/O type is filed as an I/O tensor
before its words are read. -/
def subSectionLoop (L : BinLayout) (mem : Nat → UInt8) (lb ub : Nat) (kind : ParamLoadType)
    (bufIdx : Nat) : SubSectionDesc → Nat → Nat → Nat → BssWalk
  | last, _, addr, 0 => ⟨∅, [], last, bufIdx, addr, true⟩
  | last, k, addr, n + 1 =>
    if umdIsValidPtr lb ub addr L.subDescSize then
      let sub := L.subDesc (bytesAt mem addr L.subDescSize)
      let type := L.sectionType sub.type
      let io := if kind = .reuse ∧ type.isIo then [(bufIdx, type, sub)] else []
      let w := roEntries mem lb ub (paramEntry kind bufIdx k sub) (addr + L.subDescSize)
        sub.offsetInRoCnt
      let here : BssAppends := ⟨w.1, io, [], []⟩
      if w.2.2 then
        let r := subSectionLoop L mem lb ub kind bufIdx sub (k + 1) w.2.1 n
        { r with appends := here ++ r.appends,
                 subSections := sub.offsetInSectionExec :: r.subSections }
      else ⟨here, [sub.offsetInSectionExec], sub, bufIdx, w.2.1, false⟩
    else ⟨∅, [], last, bufIdx, addr, false⟩

/-- The static (`kind = .static`) or reuse (`kind = .reuse`) section loop: `n`
descriptors of `descSize` bytes from `addr`, numbered from `k`, the running buffer index
from `idx`. Each adds the section `mkSection d k last subSections` once its sub-sections
are read. -/
def sectionLoop {D : Type} (L : BinLayout) (mem : Nat → UInt8) (lb ub : Nat)
    (kind : ParamLoadType) (descSize : Nat) (decode : List UInt8 → D) (subCnt : D → Nat)
    (mkSection : D → Nat → SubSectionDesc → List Nat → GraphSectionDesc) :
    SubSectionDesc → Nat → Nat → Nat → Nat → BssWalk
  | last, _, idx, addr, 0 => ⟨∅, [], last, idx, addr, true⟩
  | last, k, idx, addr, n + 1 =>
    if umdIsValidPtr lb ub addr descSize then
      let d := decode (bytesAt mem addr descSize)
      let s := subSectionLoop L mem lb ub kind idx last 0 (addr + descSize) (subCnt d)
      if s.ok then
        let sec := mkSection d k s.last s.subSections
        let added : BssAppends :=
          if kind = .static then ⟨[], [], [sec], []⟩ else ⟨[], [], [], [sec]⟩
        let r := sectionLoop L mem lb ub kind descSize decode subCnt mkSection s.last (k + 1)
          (idx + 1) s.addr n
        { r with appends := s.appends ++ added ++ r.appends }
      else { s with bufIdx := idx }
    else ⟨∅, [], last, idx, addr, false⟩

/-- A static section: its size, alignment and file offset, the type of the last
sub-section read (`section_ir.type = sub_desc_load.type`) and its slot. -/
def staticSection (L : BinLayout) (d : BssStaticSectionDesc) (slot : Nat)
    (last : SubSectionDesc) (subs : List Nat) : GraphSectionDesc :=
  ⟨d.size, L.alignAddr d.alignBytes, d.offsetInFile, last.type, slot, subs⟩

/-- A reuse section: its size and alignment. -/
def reuseSection (L : BinLayout) (d : BssReuseSectionDesc) (_ : Nat) (_ : SubSectionDesc)
    (subs : List Nat) : GraphSectionDesc :=
  ⟨d.size, L.alignAddr d.alignBytes, 0, 0, 0, subs⟩

/-- `sub_desc_load = {0}`. -/
def SubSectionDesc.zero : SubSectionDesc := ⟨0, 0, 0, 0, 0, 0, 0, 0, 0⟩

/-- The parser's running indices `m_static_buf_idx` and `m_reuse_buf_idx`. -/
structure ParserBase where
  staticBufIdx : Nat
  reuseBufIdx : Nat
deriving DecidableEq, Repr

/-- What `parse_bss_section` returns: the parser, the graph, the status and `*next`
(`none` when it is not written). -/
structure BssParse where
  parser : ParserBase
  graph : GraphV3X
  status : Status
  next : Option Nat
deriving DecidableEq, Repr

/-- `ParserBase::parse_bss_section(bss, size, bss_id, gobj, next)`. Binding
`get_bss_io_ref(0)` reads BSS 0 of the graph. -/
def ParserBase.parseBssSection (p : ParserBase) (L : BinLayout) (mem : Nat → UInt8)
    (bss size bssId : Nat) (g : GraphV3X) : Except Fault BssParse :=
  if g.bssVec = [] then .error (.graphBss 0) else
  let lb := bss
  let ub := if size = 0 then 2 ^ 64 - 1 else bss + L.headerSize + size
  let h := L.header (bytesAt mem bss L.headerSize)
  if h.stackSize = 0 ∨ h.stackAlignBytes = 0 ∨ h.reuseSectionDescCnt = 0 then
    pure ⟨p, g, .invalidGbin, none⟩
  else
    let setStack := g.apply bssId h.stackSize (L.alignAddr h.stackAlignBytes)
    let s := sectionLoop L mem lb ub .static L.staticDescSize L.staticDesc
      (·.subSectionCnt) (staticSection L) .zero 0 p.staticBufIdx (bss + L.headerSize)
      h.staticSectionDescCnt
    if !s.ok then
      pure ⟨{ p with staticBufIdx := s.bufIdx }, setStack s.appends, .invalidGbin, none⟩
    else
      let r := sectionLoop L mem lb ub .reuse L.reuseDescSize L.reuseDesc
        (·.subSectionCnt) (reuseSection L) s.last 0 p.reuseBufIdx s.addr h.reuseSectionDescCnt
      let p' : ParserBase := ⟨s.bufIdx, r.bufIdx⟩
      pure ⟨p', setStack (s.appends ++ r.appends), if r.ok then .success else .invalidGbin,
        if r.ok then some r.addr else none⟩

/-! ## The stream the counts describe -/

/-- The `n` words from `addr`. -/
def readWords (mem : Nat → UInt8) : Nat → Nat → List Nat
  | _, 0 => []
  | addr, n + 1 => u32 (bytesAt mem addr 4) :: readWords mem (addr + 4) n

/-- `n` sub-sections from `addr`, each with its words, and where the last one ends. -/
def readSubSections (L : BinLayout) (mem : Nat → UInt8) :
    Nat → Nat → List (SubSectionDesc × List Nat) × Nat
  | addr, 0 => ([], addr)
  | addr, n + 1 =>
    let sub := L.subDesc (bytesAt mem addr L.subDescSize)
    let rest := readSubSections L mem (addr + L.subDescSize + 4 * sub.offsetInRoCnt) n
    ((sub, readWords mem (addr + L.subDescSize) sub.offsetInRoCnt) :: rest.1, rest.2)

/-- `n` descriptors of `descSize` bytes from `addr`, each with its sub-sections, and
where the last one ends. -/
def readDescs {D : Type} (L : BinLayout) (mem : Nat → UInt8) (descSize : Nat)
    (decode : List UInt8 → D) (subCnt : D → Nat) :
    Nat → Nat → List (D × List (SubSectionDesc × List Nat)) × Nat
  | addr, 0 => ([], addr)
  | addr, n + 1 =>
    let d := decode (bytesAt mem addr descSize)
    let subs := readSubSections L mem (addr + descSize) (subCnt d)
    let rest := readDescs L mem descSize decode subCnt subs.2 n
    ((d, subs.1) :: rest.1, rest.2)

/-- The parameter entries of the sub-sections of one section, numbered from `k`: one per
word, in order. -/
def subParams (kind : ParamLoadType) (bufIdx k : Nat) (subs : List (SubSectionDesc × List Nat)) :
    List GraphParamMapLoadDesc :=
  (subs.enumFrom k).flatMap fun e => e.2.2.map (paramEntry kind bufIdx e.1 e.2.1)

/-- The I/O tensors of the sub-sections of reuse section `bufIdx`: one per sub-section of
an I/O type. -/
def subIos (L : BinLayout) (bufIdx : Nat) (subs : List (SubSectionDesc × List Nat)) :
    List (Nat × SectionType × SubSectionDesc) :=
  subs.filterMap fun e =>
    if (L.sectionType e.1.type).isIo then some (bufIdx, L.sectionType e.1.type, e.1) else none

/-- The parameter entries of a run of sections whose buffer indices start at `idx`. -/
def streamParams {D : Type} (kind : ParamLoadType) (idx : Nat)
    (descs : List (D × List (SubSectionDesc × List Nat))) : List GraphParamMapLoadDesc :=
  (descs.enumFrom idx).flatMap fun e => subParams kind e.1 0 e.2.2

/-- The I/O tensors of a run of reuse sections whose buffer indices start at `idx`. -/
def streamIos {D : Type} (L : BinLayout) (idx : Nat)
    (descs : List (D × List (SubSectionDesc × List Nat))) :
    List (Nat × SectionType × SubSectionDesc) :=
  (descs.enumFrom idx).flatMap fun e => subIos L e.1 e.2.2

/-! ## The walk reads the stream -/

theorem bytesAt_congr {mem₁ mem₂ : Nat → UInt8} {addr n : Nat}
    (same : ∀ a, addr ≤ a → a < addr + n → mem₁ a = mem₂ a) :
    bytesAt mem₁ addr n = bytesAt mem₂ addr n :=
  List.map_congr_left fun _ mem => same _ (Nat.le_add_right _ _)
    (Nat.add_lt_add_left (List.mem_range.mp mem) _)

theorem umdIsValidPtr_iff {lb ub ptr size : Nat} :
    umdIsValidPtr lb ub ptr size = true ↔ lb ≤ ptr ∧ ptr + size ≤ ub := by
  simp [umdIsValidPtr]

theorem le_readSubSections (L : BinLayout) (mem : Nat → UInt8) :
    ∀ n addr, addr ≤ (readSubSections L mem addr n).2
  | 0, _ => le_rfl
  | n + 1, addr => Nat.le_trans (by omega) (le_readSubSections L mem n _)

theorem le_readDescs {D : Type} (L : BinLayout) (mem : Nat → UInt8) (descSize : Nat)
    (decode : List UInt8 → D) (subCnt : D → Nat) :
    ∀ n addr, addr ≤ (readDescs L mem descSize decode subCnt addr n).2
  | 0, _ => le_rfl
  | n + 1, addr => Nat.le_trans (Nat.le_trans (Nat.le_add_right addr descSize)
      (le_readSubSections L mem _ _)) (le_readDescs L mem descSize decode subCnt n _)

section Walk

variable {L : BinLayout} {mem : Nat → UInt8} {lb ub : Nat}

theorem roEntries_ok (entry : Nat → GraphParamMapLoadDesc) :
    ∀ n addr, lb ≤ addr → addr ≤ ub →
      (roEntries mem lb ub entry addr n).2.2 = decide (addr + 4 * n ≤ ub)
  | 0, addr, _, inside => by simp [roEntries, inside]
  | n + 1, addr, lo, _ => by
    unfold roEntries
    by_cases valid : umdIsValidPtr lb ub addr 4
    · rw [if_pos valid, roEntries_ok entry n (addr + 4) (by omega)
        (umdIsValidPtr_iff.mp valid).2]
      simp only [Nat.mul_succ, Nat.add_assoc, Nat.add_comm 4]
    · rw [if_neg valid]
      simp only [umdIsValidPtr_iff, not_and, not_le] at valid
      exact (decide_eq_false (by have := valid lo; omega)).symm

theorem roEntries_of_fits (entry : Nat → GraphParamMapLoadDesc) :
    ∀ n addr, lb ≤ addr → addr + 4 * n ≤ ub →
      roEntries mem lb ub entry addr n = ((readWords mem addr n).map entry, addr + 4 * n, true)
  | 0, addr, _, _ => rfl
  | n + 1, addr, lo, fits => by
    unfold roEntries
    rw [if_pos (umdIsValidPtr_iff.mpr ⟨lo, by omega⟩),
      roEntries_of_fits entry n (addr + 4) (by omega) (by omega)]
    simp only [readWords, List.map_cons, Nat.mul_succ]
    rw [show addr + 4 + 4 * n = addr + (4 * n + 4) by omega]

/-- The sub-section loop goes through exactly when the sub-sections end inside the
section. -/
theorem subSectionLoop_ok (kind : ParamLoadType) (bufIdx : Nat) :
    ∀ n last k addr, lb ≤ addr → addr ≤ ub →
      (subSectionLoop L mem lb ub kind bufIdx last k addr n).ok =
        decide ((readSubSections L mem addr n).2 ≤ ub)
  | 0, _, _, _, _, inside => by simp [subSectionLoop, readSubSections, inside]
  | n + 1, last, k, addr, lo, _ => by
    have past := le_readSubSections L mem n
    simp only [subSectionLoop, readSubSections]
    set sub := L.subDesc (bytesAt mem addr L.subDescSize)
    have after := past (addr + L.subDescSize + 4 * sub.offsetInRoCnt)
    by_cases valid : umdIsValidPtr lb ub addr L.subDescSize
    · rw [if_pos valid]
      have header := (umdIsValidPtr_iff.mp valid).2
      by_cases fits : addr + L.subDescSize + 4 * sub.offsetInRoCnt ≤ ub
      · rw [roEntries_of_fits _ _ _ (by omega) fits, if_pos rfl]
        exact subSectionLoop_ok kind bufIdx n sub (k + 1)
          (addr + L.subDescSize + 4 * sub.offsetInRoCnt) (by omega) fits
      · have stops : (roEntries mem lb ub (paramEntry kind bufIdx k sub) (addr + L.subDescSize)
            sub.offsetInRoCnt).2.2 = false := by
          rw [roEntries_ok _ _ _ (by omega) header, decide_eq_false fits]
        have over : ¬(readSubSections L mem
            (addr + L.subDescSize + 4 * sub.offsetInRoCnt) n).2 ≤ ub := by
          omega
        rw [if_neg (by rw [stops]; decide), decide_eq_false over]
    · rw [if_neg valid]
      simp only [umdIsValidPtr_iff, not_and, not_le] at valid
      have := valid lo
      have over :
          ¬(readSubSections L mem (addr + L.subDescSize + 4 * sub.offsetInRoCnt) n).2 ≤ ub := by
        omega
      rw [decide_eq_false over]

/-- When the sub-sections end inside the section, the loop reads all of them and adds
one entry per word, and one tensor per I/O sub-section of a reuse section. -/
theorem subSectionLoop_of_fits (kind : ParamLoadType) (bufIdx : Nat) :
    ∀ n last k addr, lb ≤ addr → (readSubSections L mem addr n).2 ≤ ub →
      let r := subSectionLoop L mem lb ub kind bufIdx last k addr n
      let subs := readSubSections L mem addr n
      r.ok = true ∧ r.addr = subs.2 ∧ r.appends.params = subParams kind bufIdx k subs.1 ∧
        r.appends.ios = if kind = .reuse then subIos L bufIdx subs.1 else []
  | 0, _, _, _, _, _ => by simp [subSectionLoop, readSubSections, subParams, subIos]
  | n + 1, last, k, addr, lo, fits => by
    have past := le_readSubSections L mem n
    simp only [subSectionLoop, readSubSections] at fits ⊢
    set sub := L.subDesc (bytesAt mem addr L.subDescSize)
    have after := past (addr + L.subDescSize + 4 * sub.offsetInRoCnt)
    rw [if_pos (umdIsValidPtr_iff.mpr ⟨lo, by omega⟩),
      roEntries_of_fits _ _ _ (by omega) (by omega), if_pos rfl]
    obtain ⟨ok, addr', params, ios⟩ := subSectionLoop_of_fits kind bufIdx n sub (k + 1)
      (addr + L.subDescSize + 4 * sub.offsetInRoCnt) (by omega) fits
    refine ⟨ok, addr', ?_, ?_⟩
    · simp only [BssAppends.append_params, params, subParams, List.enumFrom_cons,
        List.flatMap_cons]
    · cases kind
      · simp [ios]
      · by_cases io : (L.sectionType sub.type).isIo <;> simp [ios, subIos, io]

section Sections

variable {D : Type} (kind : ParamLoadType) (descSize : Nat) (decode : List UInt8 → D)
  (subCnt : D → Nat) (mkSection : D → Nat → SubSectionDesc → List Nat → GraphSectionDesc)

/-- The section loop goes through exactly when its sections end inside the section. -/
theorem sectionLoop_ok :
    ∀ n last k idx addr, lb ≤ addr → addr ≤ ub →
      (sectionLoop L mem lb ub kind descSize decode subCnt mkSection last k idx addr n).ok =
        decide ((readDescs L mem descSize decode subCnt addr n).2 ≤ ub)
  | 0, _, _, _, _, _, inside => by simp [sectionLoop, readDescs, inside]
  | n + 1, last, k, idx, addr, lo, _ => by
    simp only [sectionLoop, readDescs]
    obtain ⟨d, read⟩ : ∃ d, decode (bytesAt mem addr descSize) = d := ⟨_, rfl⟩
    simp only [read]
    have after := le_readDescs L mem descSize decode subCnt n
      (readSubSections L mem (addr + descSize) (subCnt d)).2
    by_cases valid : umdIsValidPtr lb ub addr descSize
    · rw [if_pos valid]
      have header := (umdIsValidPtr_iff.mp valid).2
      by_cases fits : (readSubSections L mem (addr + descSize) (subCnt d)).2 ≤ ub
      · obtain ⟨ok, addr', -⟩ :=
          subSectionLoop_of_fits kind idx (subCnt d) last 0 (addr + descSize) (lo.trans (by omega))
            fits
        have within := le_readSubSections L mem (subCnt d) (addr + descSize)
        rw [if_pos ok]
        dsimp only
        rw [sectionLoop_ok n _ (k + 1) (idx + 1) _ (by rw [addr']; omega) (by rw [addr']; omega),
          addr']
      · have stops : (subSectionLoop L mem lb ub kind idx last 0 (addr + descSize)
            (subCnt d)).ok = false := by
          rw [subSectionLoop_ok kind idx (subCnt d) last 0 (addr + descSize) (lo.trans (by omega))
            header, decide_eq_false fits]
        rw [if_neg (by rw [stops]; decide)]
        exact stops.trans (decide_eq_false (by omega)).symm
    · rw [if_neg valid]
      simp only [umdIsValidPtr_iff, not_and, not_le] at valid
      have := valid lo
      have := le_readSubSections L mem (subCnt d) (addr + descSize)
      exact (decide_eq_false (by omega)).symm

/-- When the sections end inside the section, the loop reads all of them: the `i`-th
gets buffer index `idx + i`, and the entries and tensors are those of the stream. -/
theorem sectionLoop_of_fits :
    ∀ n last k idx addr, lb ≤ addr →
      (readDescs L mem descSize decode subCnt addr n).2 ≤ ub →
      let r := sectionLoop L mem lb ub kind descSize decode subCnt mkSection last k idx addr n
      let descs := readDescs L mem descSize decode subCnt addr n
      r.ok = true ∧ r.addr = descs.2 ∧ r.bufIdx = idx + n ∧
        r.appends.params = streamParams kind idx descs.1 ∧
        r.appends.ios = if kind = .reuse then streamIos L idx descs.1 else []
  | 0, _, _, _, _, _, _ => by simp [sectionLoop, readDescs, streamParams, streamIos]
  | n + 1, last, k, idx, addr, lo, fits => by
    simp only [sectionLoop, readDescs] at fits ⊢
    obtain ⟨d, read⟩ : ∃ d, decode (bytesAt mem addr descSize) = d := ⟨_, rfl⟩
    simp only [read] at fits ⊢
    have after := le_readDescs L mem descSize decode subCnt n
      (readSubSections L mem (addr + descSize) (subCnt d)).2
    have within := le_readSubSections L mem (subCnt d) (addr + descSize)
    obtain ⟨ok, addr', params, ios⟩ :=
      subSectionLoop_of_fits kind idx (subCnt d) last 0 (addr + descSize) (lo.trans (by omega))
        (show (readSubSections L mem (addr + descSize) (subCnt d)).2 ≤ ub by omega)
    rw [if_pos (umdIsValidPtr_iff.mpr ⟨lo, by omega⟩), if_pos ok]
    generalize subSectionLoop L mem lb ub kind idx last 0 (addr + descSize) (subCnt d) = s
      at ok addr' params ios ⊢
    rw [← addr'] at fits ⊢
    obtain ⟨ok', addr'', idx', params', ios'⟩ :=
      sectionLoop_of_fits n s.last (k + 1) (idx + 1) s.addr (by omega) fits
    refine ⟨ok', addr'', by rw [idx']; omega, ?_, ?_⟩
    · cases kind <;> simp [params, params', streamParams, List.enumFrom_cons]
    · cases kind <;> simp [ios, ios', streamIos, List.enumFrom_cons]

end Sections

end Walk

/-! ## The walk reads nothing outside the section -/

section Reads

variable {L : BinLayout} {lb ub : Nat} {mem₁ mem₂ : Nat → UInt8}

theorem bytesAt_congr_of_valid (same : ∀ a, lb ≤ a → a < ub → mem₁ a = mem₂ a)
    {addr n : Nat} (valid : umdIsValidPtr lb ub addr n = true) :
    bytesAt mem₁ addr n = bytesAt mem₂ addr n :=
  have inside := umdIsValidPtr_iff.mp valid
  bytesAt_congr fun a lo hi => same a (by omega) (by omega)

theorem roEntries_congr (same : ∀ a, lb ≤ a → a < ub → mem₁ a = mem₂ a)
    (entry : Nat → GraphParamMapLoadDesc) :
    ∀ n addr, roEntries mem₁ lb ub entry addr n = roEntries mem₂ lb ub entry addr n
  | 0, _ => rfl
  | n + 1, addr => by
    unfold roEntries
    split
    next valid => rw [bytesAt_congr_of_valid same valid, roEntries_congr same entry n]
    next => rfl

theorem subSectionLoop_congr (same : ∀ a, lb ≤ a → a < ub → mem₁ a = mem₂ a)
    (kind : ParamLoadType) (bufIdx : Nat) :
    ∀ n last k addr, subSectionLoop L mem₁ lb ub kind bufIdx last k addr n =
      subSectionLoop L mem₂ lb ub kind bufIdx last k addr n
  | 0, _, _, _ => rfl
  | n + 1, last, k, addr => by
    unfold subSectionLoop
    split
    next valid =>
      simp only [bytesAt_congr_of_valid same valid, roEntries_congr same,
        subSectionLoop_congr same kind bufIdx n]
    next => rfl

theorem sectionLoop_congr (same : ∀ a, lb ≤ a → a < ub → mem₁ a = mem₂ a) {D : Type}
    (kind : ParamLoadType) (descSize : Nat) (decode : List UInt8 → D) (subCnt : D → Nat)
    (mkSection : D → Nat → SubSectionDesc → List Nat → GraphSectionDesc) :
    ∀ n last k idx addr,
      sectionLoop L mem₁ lb ub kind descSize decode subCnt mkSection last k idx addr n =
        sectionLoop L mem₂ lb ub kind descSize decode subCnt mkSection last k idx addr n
  | 0, _, _, _, _ => rfl
  | n + 1, last, k, idx, addr => by
    unfold sectionLoop
    split
    next valid =>
      simp only [bytesAt_congr_of_valid same valid, subSectionLoop_congr same,
        sectionLoop_congr same kind descSize decode subCnt mkSection n]
    next => rfl

/-- `parse_bss_section` reads no byte outside the section it is given. -/
theorem parseBssSection_congr (p : ParserBase) (L : BinLayout) {mem₁ mem₂ : Nat → UInt8}
    {bss size : Nat} (bssId : Nat) (g : GraphV3X) (pos : 0 < size)
    (same : ∀ a, bss ≤ a → a < bss + L.headerSize + size → mem₁ a = mem₂ a) :
    p.parseBssSection L mem₁ bss size bssId g = p.parseBssSection L mem₂ bss size bssId g := by
  have header : bytesAt mem₁ bss L.headerSize = bytesAt mem₂ bss L.headerSize :=
    bytesAt_congr fun a lo _ => same a lo (by omega)
  simp only [ParserBase.parseBssSection, if_neg (show ¬size = 0 by omega), header,
    sectionLoop_congr same]

end Reads

/-! ## `parse_bss_section` -/

/-- For a section of non-zero size, the parser accepts exactly when the header is usable
and the stream its counts describe ends inside the section. It then points `*next` past
the stream, advances its indices by the number of sections, appends to BSS 0 one entry
per word in stream order and files one tensor per I/O sub-section of a reuse section.
It reads no byte outside the section. -/
theorem parseBssSection_spec (p : ParserBase) (L : BinLayout) (mem : Nat → UInt8)
    (bss size bssId : Nat) (g : GraphV3X) (pos : 0 < size) (hasBss : g.bssVec ≠ []) :
    let ub := bss + L.headerSize + size
    let h := L.header (bytesAt mem bss L.headerSize)
    let statics := readDescs L mem L.staticDescSize L.staticDesc (·.subSectionCnt)
      (bss + L.headerSize) h.staticSectionDescCnt
    let reuses := readDescs L mem L.reuseDescSize L.reuseDesc (·.subSectionCnt) statics.2
      h.reuseSectionDescCnt
    ∃ r, p.parseBssSection L mem bss size bssId g = .ok r ∧
      (∀ mem', (∀ a, bss ≤ a → a < ub → mem' a = mem a) →
        p.parseBssSection L mem' bss size bssId g = .ok r) ∧
      (r.status = .success ↔
        (h.stackSize ≠ 0 ∧ h.stackAlignBytes ≠ 0 ∧ h.reuseSectionDescCnt ≠ 0) ∧
          reuses.2 ≤ ub) ∧
      (r.status = .success →
        r.next = some reuses.2 ∧
        r.parser = ⟨p.staticBufIdx + h.staticSectionDescCnt,
          p.reuseBufIdx + h.reuseSectionDescCnt⟩ ∧
        r.graph.bss0.paramMap = g.bss0.paramMap ++ streamParams .static p.staticBufIdx statics.1 ++
          streamParams .reuse p.reuseBufIdx reuses.1 ∧
        r.graph.bss0.io = (streamIos L p.reuseBufIdx reuses.1).foldl
          (fun io e => (fillIoTensorDescInner e.1 e.2.1 e.2.2 io).1) g.bss0.io) := by
  intro ub h statics reuses
  have bound : (if size = 0 then 2 ^ 64 - 1 else bss + L.headerSize + size) = ub :=
    if_neg (by omega)
  have past := le_readDescs L mem L.reuseDescSize L.reuseDesc (·.subSectionCnt)
    h.reuseSectionDescCnt statics.2
  obtain ⟨r, parse⟩ : ∃ r, p.parseBssSection L mem bss size bssId g = .ok r := by
    simp only [ParserBase.parseBssSection, if_neg hasBss, bound]
    split
    · exact ⟨_, rfl⟩
    · split <;> exact ⟨_, rfl⟩
  refine ⟨r, parse, fun mem' same =>
    (parseBssSection_congr p L bssId g pos same).trans parse, ?_⟩
  simp only [ParserBase.parseBssSection, if_neg hasBss, bound] at parse
  split at parse
  next bad =>
    cases parse
    refine ⟨iff_of_false nofun fun ⟨⟨stack, align, cnt⟩, _⟩ => ?_, nofun⟩
    rcases bad with e | e | e <;> contradiction
  next good =>
    by_cases fitsS : statics.2 ≤ ub
    · obtain ⟨okS, addrS, idxS, paramsS, iosS⟩ := sectionLoop_of_fits .static L.staticDescSize
        L.staticDesc (·.subSectionCnt) (staticSection L) h.staticSectionDescCnt .zero 0
        p.staticBufIdx (bss + L.headerSize) (Nat.le_add_right bss _) fitsS
      have lo : bss ≤ statics.2 := (Nat.le_add_right bss _).trans (le_readDescs L mem _ _ _ _ _)
      rw [okS, addrS, if_neg (by decide)] at parse
      by_cases fitsR : reuses.2 ≤ ub
      · have reuse := fun last => sectionLoop_of_fits .reuse L.reuseDescSize L.reuseDesc
          (·.subSectionCnt) (reuseSection L) h.reuseSectionDescCnt last 0 p.reuseBufIdx statics.2
          lo fitsR
        rw [(reuse _).1, (reuse _).2.1] at parse
        cases parse
        refine ⟨iff_of_true rfl ⟨by simpa only [not_or] using good, fitsR⟩,
          fun _ => ⟨rfl, ?_, ?_, ?_⟩⟩
        · rw [idxS, (reuse _).2.2.1]
        · rw [(GraphV3X.apply_bss0 _ _ _ _ hasBss).1, BssAppends.append_params, paramsS,
            (reuse _).2.2.2.1, List.append_assoc]
        · rw [(GraphV3X.apply_bss0 _ _ _ _ hasBss).2, BssAppends.append_ios, iosS,
            (reuse _).2.2.2.2, if_pos rfl, if_neg nofun, List.nil_append]
      · rw [sectionLoop_ok .reuse L.reuseDescSize L.reuseDesc (·.subSectionCnt) (reuseSection L)
          _ _ 0 p.reuseBufIdx _ lo fitsS, decide_eq_false fitsR] at parse
        cases parse
        exact ⟨iff_of_false nofun fun ⟨_, fits⟩ => fitsR fits, nofun⟩
    · rw [sectionLoop_ok .static L.staticDescSize L.staticDesc (·.subSectionCnt) (staticSection L)
        _ _ 0 p.staticBufIdx _ (Nat.le_add_right bss _) (by omega), decide_eq_false fitsS] at parse
      cases parse
      exact ⟨iff_of_false nofun fun ⟨_, fits⟩ => fitsS (past.trans fits), nofun⟩

/-- A layout in which every field the parser reads is one byte: a 4-byte header, 4-byte
static and 3-byte reuse descriptors, and 3-byte sub-sections (type, word count, offset);
type 1 is an input. -/
def byteLayout : BinLayout where
  headerSize := 4
  staticDescSize := 4
  reuseDescSize := 3
  subDescSize := 3
  header bs :=
    ⟨(bs.getD 0 0).toNat, (bs.getD 1 0).toNat, (bs.getD 2 0).toNat, (bs.getD 3 0).toNat⟩
  staticDesc bs :=
    ⟨(bs.getD 0 0).toNat, (bs.getD 1 0).toNat, (bs.getD 2 0).toNat, (bs.getD 3 0).toNat⟩
  reuseDesc bs := ⟨(bs.getD 0 0).toNat, (bs.getD 1 0).toNat, (bs.getD 2 0).toNat⟩
  subDesc bs :=
    ⟨(bs.getD 0 0).toNat, (bs.getD 1 0).toNat, (bs.getD 2 0).toNat, 0, 0, 0, 0, 0, 0⟩
  sectionType n := if n = 1 then .input else .other n
  alignAddr n := n

/-- A BSS at address 0 with no static section and one reuse section of one input
sub-section at offset 5 holding the word 42; the stream ends at byte 14. -/
def oneWordBss : Nat → UInt8 :=
  fun a => [1, 1, 0, 1, 9, 1, 1, 1, 1, 5, 42, 0, 0, 0].getD a 0

/-- A graph with an empty BSS 0. -/
def oneWordGraph : GraphV3X := ⟨[default]⟩

theorem parseBssSection_spec_one_word :
    0 < 10 ∧ oneWordGraph.bssVec ≠ [] ∧
      ∃ r,
        (⟨0, 0⟩ : ParserBase).parseBssSection byteLayout oneWordBss 0 10 0 oneWordGraph =
          .ok r ∧
        r.status = .success ∧ r.next = some 14 ∧
        r.graph.bss0.paramMap = [⟨42, .reuse, 1, 0, 0, 5, 0⟩] := by
  obtain ⟨r, parse, -, status, success⟩ :=
    parseBssSection_spec ⟨0, 0⟩ byteLayout oneWordBss 0 10 0 oneWordGraph (by decide)
      (by simp [oneWordGraph])
  have ok := status.mpr (by decide)
  obtain ⟨next, -, params, -⟩ := success ok
  exact ⟨by decide, by simp [oneWordGraph], r, parse, ok, next.trans rfl,
    params.trans (by decide)⟩

end AipuUmd
