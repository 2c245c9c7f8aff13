import Mathlib.Data.List.Basic
import Mathlib.Algebra.Order.Ring.Nat

/-!
# The graph as a job reads it

`GraphV3X` keeps, per subgraph, its dependency (`precursor_cnt` and `precursors`), its
private sections and its private-data size, and per BSS its reuse sections, stack size,
I/O tensors and parameter map. Only the parts the job's buffer code and the parser's
reuse loop touch are modelled.

`ParserBase::parse_bss_section` gives every reuse section the parser's running index
`m_reuse_buf_idx`. The I/O tensors and `REUSE` parameter entries of the section's
sub-sections record that index, and `GraphV3X::add_reuse_section` appends the section to
its own BSS and, for a BSS other than 0, to BSS 0 as well (`parseReuseSections`).
-/

namespace AipuUmd

/-- `GraphSectionDesc`: the size the job allocates for a section. -/
structure SectionDesc where
  size : Nat
deriving DecidableEq, Repr, Inhabited

/-- `SUBG_DEPEND_PREALL`: the subgraph waits for every earlier group. -/
def subgDependPreall : Int := -1

/-- A subgraph of the graph. `precursorCnt` is `SUBG_DEPEND_NONE` (0), a group count
from 1 to 4 whose `precursors` name earlier subgraphs, or `SUBG_DEPEND_PREALL`. -/
structure Subgraph where
  precursorCnt : Int
  precursors : List Nat
  privateBuffers : List SectionDesc
  privateDataSize : Nat
  printfifoSize : Nat
deriving DecidableEq, Repr, Inhabited

/-- The sub-section types `fill_io_tensor_desc_inner` files a tensor under; any other
type is not an I/O tensor. -/
inductive SectionType
  | input | output | interDump | profData | plogData | layerCounter | errorCode | segmmu
  | outTensorShape
  | other (code : Nat)
deriving DecidableEq, Repr

/-- `GraphIOTensorDesc`: the reuse section the tensor lives in. -/
structure IoTensorDesc where
  refSectionIter : Nat
deriving DecidableEq, Repr

/-- `GraphIOTensors`. -/
structure IoTensors where
  inputs : List IoTensorDesc
  outputs : List IoTensorDesc
  interDumps : List IoTensorDesc
  profiler : List IoTensorDesc
  printf : List IoTensorDesc
  layerCounter : List IoTensorDesc
  errCode : List IoTensorDesc
  segmmus : List IoTensorDesc
  outputsShape : List IoTensorDesc
deriving DecidableEq, Repr, Inhabited

/-- The `switch` of `fill_io_tensor_desc_inner`: the tensor joins the list of its type. -/
def IoTensors.push (io : IoTensors) (type : SectionType) (desc : IoTensorDesc) : IoTensors :=
  match type with
  | .input => { io with inputs := io.inputs ++ [desc] }
  | .output => { io with outputs := io.outputs ++ [desc] }
  | .interDump => { io with interDumps := io.interDumps ++ [desc] }
  | .profData => { io with profiler := io.profiler ++ [desc] }
  | .plogData => { io with printf := io.printf ++ [desc] }
  | .layerCounter => { io with layerCounter := io.layerCounter ++ [desc] }
  | .errorCode => { io with errCode := io.errCode ++ [desc] }
  | .segmmu => { io with segmmus := io.segmmus ++ [desc] }
  | .outTensorShape => { io with outputsShape := io.outputsShape ++ [desc] }
  | .other _ => io

/-- Every I/O tensor, whatever its type. -/
def IoTensors.all (io : IoTensors) : List IoTensorDesc :=
  io.inputs ++ io.outputs ++ io.interDumps ++ io.profiler ++ io.printf ++ io.layerCounter ++
    io.errCode ++ io.segmmus ++ io.outputsShape

/-- `PARAM_MAP_LOAD_TYPE_STATIC` or `PARAM_MAP_LOAD_TYPE_REUSE`. -/
inductive ParamLoadType
  | static
  | reuse
deriving DecidableEq, Repr

/-- `GraphParamMapLoadDesc`: which buffer list the entry indexes, and where. -/
structure ParamMapLoadDesc where
  loadType : ParamLoadType
  bufIndex : Nat
deriving DecidableEq, Repr

/-- A BSS of the graph. -/
structure Bss where
  reuseSections : List SectionDesc
  stackSize : Nat
  io : IoTensors
  paramMap : List ParamMapLoadDesc
deriving DecidableEq, Repr, Inhabited

/-- `struct SegMMUConfig`: the eight words `seg[s].control[k]`, at `2 * s + k`, then
`SegMMU_ctl` and `SegMMU_remap`. The reserved words are not read. -/
structure SegMMUConfig where
  control : List Nat
  segmmuCtl : Nat
  segmmuRemap : Nat
  control_length : control.length = 8
deriving DecidableEq, Repr

instance : Inhabited SegMMUConfig := ⟨⟨List.replicate 8 0, 0, 0, rfl⟩⟩

/-- The graph. `fakeSubgraph` is `m_fake_subgraph`, `dynamicShape` is
`is_dynamic_shape()`, and `gmReuse` lists the reuse sections
`gm_is_gm_buffer(k, GM_BUF_TYPE_REUSE)` places in GM. `segmmuNum` is `m_segmmu_num`
and `segmmuRecords` the records of `m_bsegmmu` after it, as `set_segmmu` keeps the
`.note.aipu.segmmu` section. -/
structure Graph where
  subgraphs : List Subgraph
  fakeSubgraph : Bool
  bss : List Bss
  rodataSize : Nat
  descSize : Nat
  globalParamSize : Nat
  dynamicShape : Bool
  gmReuse : List Nat
  segmmuNum : Nat := 0
  segmmuRecords : List SegMMUConfig := []
deriving DecidableEq, Repr

/-- `GraphV3X::get_subgraph_cnt`: no subgraph at all for a fake-subgraph graph. -/
def Graph.subgraphCnt (g : Graph) : Nat := if g.fakeSubgraph then 0 else g.subgraphs.length

/-- `get_subgraph(i)`. -/
def Graph.subgraph (g : Graph) (i : Nat) : Subgraph := g.subgraphs.getD i default

/-- `get_bss(0)`. -/
def Graph.bss0 (g : Graph) : Bss := g.bss.getD 0 default

/-- Change BSS `i` if it exists. -/
def Graph.modifyBss (g : Graph) (i : Nat) (f : Bss → Bss) : Graph :=
  { g with bss := g.bss.modify f i }

/-! ## The reuse loop of `parse_bss_section` -/

/-- A reuse sub-section as the parser reads it: its type and how many `offset_in_ro`
entries follow it. -/
structure SubSectionLoad where
  type : SectionType
  offsetInRoCnt : Nat
deriving DecidableEq, Repr

/-- A `BSSReuseSectionDesc` with its sub-sections. -/
structure ReuseSectionLoad where
  size : Nat
  subSections : List SubSectionLoad
deriving DecidableEq, Repr

/-- The sub-section types that describe an I/O tensor. -/
def SectionType.isIo : SectionType → Bool
  | .other _ => false
  | _ => true

/-- One sub-section of reuse section `idx`: an I/O tensor of BSS 0's I/O list refers
to the section, and each `offset_in_ro` entry adds a `REUSE` parameter entry for it to
BSS 0. -/
def parseSubSection (idx : Nat) (g : Graph) (sub : SubSectionLoad) : Graph :=
  let g := if sub.type.isIo then g.modifyBss 0 fun b => { b with io := b.io.push sub.type ⟨idx⟩ }
    else g
  g.modifyBss 0 fun b =>
    { b with paramMap := b.paramMap ++ List.replicate sub.offsetInRoCnt ⟨.reuse, idx⟩ }

/-- `GraphV3X::add_reuse_section`. -/
def Graph.addReuseSection (g : Graph) (bssId : Nat) (sec : SectionDesc) : Graph :=
  let g := g.modifyBss bssId fun b => { b with reuseSections := b.reuseSections ++ [sec] }
  if bssId ≠ 0 then g.modifyBss 0 fun b => { b with reuseSections := b.reuseSections ++ [sec] }
  else g

/-- The reuse loop of `parse_bss_section` for BSS `bssId`, carrying `m_reuse_buf_idx`. -/
def parseReuseSections (bssId : Nat) : Graph × Nat → List ReuseSectionLoad → Graph × Nat
  | acc, [] => acc
  | (g, idx), desc :: rest =>
    let g := desc.subSections.foldl (parseSubSection idx) g
    parseReuseSections bssId (g.addReuseSection bssId ⟨desc.size⟩, idx + 1) rest

end AipuUmd
