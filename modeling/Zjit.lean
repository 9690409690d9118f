import Zjit.Annotation
import Zjit.Backend.Arm
import Zjit.Backend.Basic
import Zjit.Backend.Typed
import Zjit.Backend.X86
import Zjit.Build
import Zjit.Classify
import Zjit.Code
import Zjit.Dangling
import Zjit.Data
import Zjit.Emit
import Zjit.Foundation.Buckets
import Zjit.Foundation.Chain
import Zjit.Foundation.Floor
import Zjit.Foundation.Ledger
import Zjit.Foundation.Meeting
import Zjit.Foundation.Program
import Zjit.Foundation.Script
import Zjit.Foundation.Search
import Zjit.Frame
import Zjit.FreeList
import Zjit.Instr.Branch
import Zjit.Instr.Float
import Zjit.Instr.Integer
import Zjit.Instr.Memory
import Zjit.Interning
import Zjit.Lasting
import Zjit.Layout
import Zjit.Lifecycle
import Zjit.Lifetime
import Zjit.Lookup
import Zjit.Lowering
import Zjit.NativeWord
import Zjit.Node
import Zjit.Note
import Zjit.Optimize.Blocks
import Zjit.Optimize.Branches
import Zjit.Optimize.Cutting
import Zjit.Optimize.Endless
import Zjit.Optimize.Jumps
import Zjit.Optimize.Labels
import Zjit.Optimize.Links
import Zjit.Optimize.Listing
import Zjit.Optimize.Liveness
import Zjit.Optimize.Main
import Zjit.Optimize.Meaning
import Zjit.Optimize.Merging
import Zjit.Optimize.Pass
import Zjit.Optimize.Registers
import Zjit.Optimize.Rewrite
import Zjit.Optimize.Shape
import Zjit.Optimize.Splitting
import Zjit.Optimize.Threading
import Zjit.Optimize.Threads
import Zjit.Optimize.Values
import Zjit.Ownership
import Zjit.Position
import Zjit.Protocol
import Zjit.Quiet
import Zjit.Recording
import Zjit.Register
import Zjit.Reserve
import Zjit.Run
import Zjit.State
import Zjit.Timeline
import Zjit.Word
import Zjit.Wrapper
