import SkSdk.Library.ByteMemory
import SkSdk.Library.Format
import SkSdk.Library.FaultState
import SkSdk.Library.DoublyLinked
import SkSdk.Library.Refinement
import SkSdk.Library.Ownership
import SkSdk.Both.Tapi
import SkSdk.Both.SysvBytePacking
import SkSdk.Both.TapiBytePack
import SkSdk.Both.TapiByteUnpack
import SkSdk.Both.TapiCodec
import SkSdk.Both.TapiLimits
import SkSdk.Swld.Tapi
import SkSdk.Swld.TapiTables
import SkSdk.Swld.TapiHandlers
import SkSdk.Swld.TapiRequests
import SkSdk.Swld.SessionTable
import SkSdk.Swld.TableEdits
import SkSdk.Swld.TableOps
import SkSdk.Swld.TapiRuns
import SkSdk.Swld.RegisteredMemory
import SkSdk.Swld.Expiry
import SkSdk.Swld.TapiProcess
import SkSdk.Swld.ServerInvariant
import SkSdk.Swld.Isolation
import SkSdk.Swld.Handles
import SkSdk.Swld.Accounting
import SkSdk.Swld.TapiDispatch
import SkSdk.Swld.SessionRemoval
import SkSdk.Swld.SessionSlots
import SkSdk.Swld.SessionPair
import SkSdk.Swld.RequestOutcomes
import SkSdk.Swld.SessionStore
import SkSdk.Swld.TappCalls
import SkSdk.Swld.TableStore
import SkSdk.Swld.StoreRefinement
import SkSdk.Swld.MemoryRegistry
import SkSdk.Swld.MemoryRequests
import SkSdk.Swld.StaleLocals
import SkSdk.Swld.TapiMessageInterface
import SkSdk.Library.Rc4
import SkSdk.Swld.MyRc4Prng
import SkSdk.Swld.Rc4Invariant
import SkSdk.Swld.ExpirySweep
import SkSdk.Swld.KeepAlive
import SkSdk.Library.Accumulation
import SkSdk.Swld.HandleGenerator
import SkSdk.Nwld.Tapi
import SkSdk.Nwld.TapiCalls
import SkSdk.Nwld.TableInvariant
import SkSdk.Nwld.FailedOpen
import SkSdk.Nwld.SessionArrays
import SkSdk.Nwld.Relay
import SkSdk.Library.NameTable
import SkSdk.Nwld.TeecApi
import SkSdk.Nwld.ClientContexts
import SkSdk.Nwld.ClientSessions
import SkSdk.Worlds.Composition
import SkSdk.Worlds.Agreement
import SkSdk.Worlds.Stack
import SkSdk.Worlds.StackSessions
import SkSdk.Worlds.Misaddressed
import SkSdk.Platform.CommObjects
import SkSdk.Library.Duplex
import SkSdk.Platform.CommBuffers
import SkSdk.Platform.Comm
import SkSdk.Platform.Transport
import SkSdk.Platform.Directions
import SkSdk.Library.Supply
import SkSdk.Platform.Receiver
import SkSdk.Platform.StaleHeap
import SkSdk.Swld.TappToc
import SkSdk.Swld.TappTocEntries
import SkSdk.Library.Stdio
import SkSdk.Swld.TappManifestPack
import SkSdk.Library.Access
import SkSdk.Swld.TappTocBounds
import SkSdk.Swld.TappTocAdd
import SkSdk.Swld.Tapp
import SkSdk.Platform.TappSwldAppInterface
import SkSdk.Platform.TappObjects
import SkSdk.Swld.TappObjectRuns
import SkSdk.Swld.Answers
import SkSdk.Tools.TappBuildTocDb
import SkSdk.Tools.TappManifest
import SkSdk.Tools.InstalledTapps
import SkSdk.Tools.CommonTools
import SkSdk.Tools.LastLine
import SkSdk.Tools.ManifestText
