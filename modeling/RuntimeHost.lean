import RuntimeHost.Abi.Buffer
import RuntimeHost.Abi.Negotiation
import RuntimeHost.Abi.Status
import RuntimeHost.Foundation.Accounts
import RuntimeHost.Foundation.BigEndian
import RuntimeHost.Foundation.Census
import RuntimeHost.Foundation.Contract
import RuntimeHost.Foundation.FilePath
import RuntimeHost.Foundation.History
import RuntimeHost.Foundation.Implementation
import RuntimeHost.Foundation.Index
import RuntimeHost.Foundation.Interleaving
import RuntimeHost.Foundation.LinkedMap
import RuntimeHost.Foundation.Memory
import RuntimeHost.Foundation.Monitor
import RuntimeHost.Foundation.Names
import RuntimeHost.Foundation.Ownership
import RuntimeHost.Foundation.Partner
import RuntimeHost.Foundation.Program
import RuntimeHost.Foundation.Progress
import RuntimeHost.Foundation.Record
import RuntimeHost.Foundation.Result
import RuntimeHost.Foundation.SeparatedNames
import RuntimeHost.Foundation.Text
import RuntimeHost.Foundation.Typestate
import RuntimeHost.Java.HostPlugin
import RuntimeHost.Java.HostPluginSafety
import RuntimeHost.Java.NativeEngine
import RuntimeHost.Java.PackagePaths
import RuntimeHost.Java.Routing
import RuntimeHost.Java.RuntimeEngine
import RuntimeHost.Java.SessionAuthority
import RuntimeHost.Java.SessionTables
import RuntimeHost.Java.Sessions
import RuntimeHost.Java.Teardown
import RuntimeHost.Jni.Binding
import RuntimeHost.Jni.BindingSafety
import RuntimeHost.Jni.BoundMethods
import RuntimeHost.Jni.Environment
import RuntimeHost.Jni.EnvironmentSafety
import RuntimeHost.Jni.ExportSafety
import RuntimeHost.Jni.Exports
import RuntimeHost.Jni.Joint
import RuntimeHost.Native.AllocationTable
import RuntimeHost.Native.Embedded
import RuntimeHost.Native.EmbeddedExact
import RuntimeHost.Native.EmbeddedSafety
import RuntimeHost.Native.Engine
import RuntimeHost.Native.Entrypoint
import RuntimeHost.Native.HostError
import RuntimeHost.Native.Lifecycle
import RuntimeHost.Native.LifecycleInvariant
import RuntimeHost.Native.LifecycleSafety
import RuntimeHost.Native.Methods
import RuntimeHost.Native.Reentrancy
import RuntimeHost.Native.Registry
import RuntimeHost.Native.RegistrySafety
import RuntimeHost.Native.Solo
import RuntimeHost.Process.Bridge
import RuntimeHost.Process.CallbackOrder
import RuntimeHost.Process.Callbacks
import RuntimeHost.Process.Conduct
import RuntimeHost.Process.Dialogue
import RuntimeHost.Process.DialogueAgreement
import RuntimeHost.Process.DialogueProgress
import RuntimeHost.Process.DialogueTurns
import RuntimeHost.Process.FailClosed
import RuntimeHost.Process.InvokeAnswer
import RuntimeHost.Process.Isolated
import RuntimeHost.Process.Passes
import RuntimeHost.Process.PayloadLife
import RuntimeHost.Process.RequestIds
import RuntimeHost.Process.Response
import RuntimeHost.Process.Server
import RuntimeHost.Process.ServerMachine
import RuntimeHost.Process.Stdio
import RuntimeHost.Protocol.Fields
import RuntimeHost.Protocol.Frame
import RuntimeHost.Protocol.FrameSize
import RuntimeHost.Protocol.Grammar
import RuntimeHost.Protocol.Message
import RuntimeHost.Protocol.Names
import RuntimeHost.Protocol.Reader
import RuntimeHost.Protocol.Wire
import RuntimeHost.Sdk.Buffer
import RuntimeHost.Sdk.BufferOwnership
import RuntimeHost.Sdk.CallbackIds
import RuntimeHost.Sdk.Codec
import RuntimeHost.Sdk.Decoder
import RuntimeHost.Sdk.DecoderExact
import RuntimeHost.Sdk.Encoder
import RuntimeHost.Sdk.EncoderExact
import RuntimeHost.Sdk.Error
import RuntimeHost.Sdk.Footprint
import RuntimeHost.Sdk.Future
import RuntimeHost.Sdk.FutureInvariant
import RuntimeHost.Sdk.FutureSafety
import RuntimeHost.Sdk.Handle
import RuntimeHost.Sdk.HandleLedger
import RuntimeHost.Sdk.HostHeader
import RuntimeHost.Sdk.HostQuiescence
import RuntimeHost.Sdk.HostState
import RuntimeHost.Sdk.Limits
import RuntimeHost.Sdk.Reorder
import RuntimeHost.Sdk.Session
import RuntimeHost.Sdk.SessionInvariant
import RuntimeHost.Sdk.SessionSafety
import RuntimeHost.Sdk.Value
import RuntimeHost.Sdk.WireSize
import RuntimeHost.Stack.Hybrid
import RuntimeHost.Stack.HybridSafety
