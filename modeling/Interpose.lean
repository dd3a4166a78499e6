import Interpose.Call
import Interpose.Config
import Interpose.Factory
import Interpose.Fault
import Interpose.Frame
import Interpose.Metrics
import Interpose.Naming
import Interpose.Numeric.Binary64
import Interpose.Numeric.Shortest
import Interpose.Program
import Interpose.Proxy.Descriptor
import Interpose.Proxy.FilterRule
import Interpose.Proxy.MethodSet
import Interpose.Proxy.Synthesis
import Interpose.Reference
import Interpose.Scope
import Interpose.Script.Meaning
import Interpose.Script.Syntax
import Interpose.Session
import Interpose.Table
import Interpose.Text.Blank
import Interpose.Text.Json
import Interpose.Text.Printable
import Interpose.Text.Quoted
import Interpose.Thunk
import Interpose.Types.Declaration
import Interpose.Types.Method
import Interpose.Types.MethodTable
import Interpose.Types.Narrowing
import Interpose.Types.RuntimeType
import Interpose.Types.Universe
import Interpose.Value
import Interpose.Wording
import Interpose.World
import Interpose.Proofs.Hierarchy
import Interpose.Proofs.MethodTables
import Interpose.Proofs.Growth
import Interpose.Proofs.MethodSets
import Interpose.Proofs.FactoryCoherence
import Interpose.Proofs.FactoryChanges
import Interpose.Proofs.Members
import Interpose.Proofs.ProxyTypes
import Interpose.Proofs.Programs
import Interpose.Proofs.ThunkRuns
import Interpose.Proofs.SupportedSignatures
import Interpose.Proofs.ParallelWorlds
import Interpose.Proofs.SimulatedRuns
import Interpose.Proofs.ParallelRuns
import Interpose.Proofs.Reachability
import Interpose.Proofs.InterceptedCalls
import Interpose.Proofs.Transparency
import Interpose.Proofs.Absorption
import Interpose.Proofs.Builds
import Interpose.Proofs.DirectCalls
import Interpose.Proofs.DroppedMethods
import Interpose.Proofs.CallTrees
import Interpose.Proofs.SimulatedBuilds
import Interpose.Proofs.CallEffects
import Interpose.Proofs.NestedCalls
import Interpose.Proofs.FactoryHistories
import Interpose.Proofs.ThunkCache
import Interpose.Proofs.Operations
import Interpose.Proofs.Accounting
import Interpose.Proofs.Specializations
import Interpose.Proofs.TwinFactories
import Interpose.Proofs.EagerThunks
import Interpose.Proofs.Assignability
import Interpose.Proofs.PassThrough
import Interpose.Proofs.TypeMemo
import Interpose.Proofs.CallTrails
import Interpose.Proofs.CallAccounts
import Interpose.Proofs.TargetAccessors
import Interpose.Proofs.Targets
import Interpose.Proofs.FailedCalls
import Interpose.Proofs.CollectedMethods
import Interpose.Proofs.VirtualDispatch
import Interpose.Proofs.InterfaceClosure
import Interpose.Proofs.ValueSets
import Interpose.Proofs.FrameStores
import Interpose.Proofs.MemberNames
