import AipuUmd.Simulator.Model
import AipuUmd.Simulator.System
import AipuUmd.Simulator.Dispatch
import AipuUmd.Simulator.Conservation
import AipuUmd.Simulator.Poll
import AipuUmd.Simulator.GroupId
import AipuUmd.Job.Graph
import AipuUmd.Job.State
import AipuUmd.Job.Alloc
import AipuUmd.Job.Disjoint
import AipuUmd.Job.Carving
import AipuUmd.Job.Tcb
import AipuUmd.Job.Segmmu
import AipuUmd.Job.Lifecycle
import AipuUmd.Job.Layout
import AipuUmd.Job.Unwind
import AipuUmd.Job.TaskLoop
import AipuUmd.Job.SubgraphLoop
import AipuUmd.Job.Sharing
import AipuUmd.Job.Chain
import AipuUmd.Job.Specify
import AipuUmd.Job.GlobalParam
import AipuUmd.Parser.Io
import AipuUmd.Parser.Bss
import AipuUmd.Job.DynShape
import AipuUmd.Job.Schedule
import AipuUmd.Parser.Const
import AipuUmd.Job.Dump
import AipuUmd.Job.Ownership
import AipuUmd.Job.Release
import AipuUmd.Platform.Process
import AipuUmd.Platform.Fit
import AipuUmd.Platform.Lifecycle
