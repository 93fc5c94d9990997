import EventPipeline.Exceptions
import EventPipeline.Foundation.Arena
import EventPipeline.Foundation.Chains
import EventPipeline.Foundation.DoubledMark
import EventPipeline.Foundation.Effects
import EventPipeline.Foundation.LinkedList
import EventPipeline.Foundation.Loop
import EventPipeline.Foundation.OrderedDict
import EventPipeline.Foundation.OrderedMap
import EventPipeline.Foundation.Ownership
import EventPipeline.Foundation.Procedure
import EventPipeline.Foundation.ShiftReduce
import EventPipeline.Result.ResultSet
import EventPipeline.Result.Mutation
import EventPipeline.Result.Refinement
import EventPipeline.Result.Filter
import EventPipeline.Result.FilterLaws
import EventPipeline.Result.ExactLookup
import EventPipeline.Telemetry.StandardLogger
import EventPipeline.Telemetry.Pairing
import EventPipeline.Parser.Lexer
import EventPipeline.Parser.Ast
import EventPipeline.Parser.Grammar
import EventPipeline.Parser.Flattening
import EventPipeline.Parser.Syntax
import EventPipeline.Parser.Completeness
import EventPipeline.Parser.Soundness
import EventPipeline.Task.PipelineTask
import EventPipeline.Task.Builder
import EventPipeline.Task.TaskTree
import EventPipeline.Task.Spine
import EventPipeline.Task.Denotation
import EventPipeline.Task.BuilderCorrectness
import EventPipeline.Task.Acceptance
import EventPipeline.Task.Reporting
import EventPipeline.Task.Coverage
import EventPipeline.Task.Script
import EventPipeline.Task.Mirroring
import EventPipeline.Task.Proper
import EventPipeline.Task.Subtrees
import EventPipeline.Task.Scripted
import EventPipeline.Task.PairedGroups
import EventPipeline.Task.Edges
import EventPipeline.Task.CustomBranches
import EventPipeline.Task.RetrySpelling
import EventPipeline.Task.ProperTree
import EventPipeline.Execution.EventResult
import EventPipeline.Execution.Context
import EventPipeline.Execution.Evaluation
import EventPipeline.Execution.Dispatch
import EventPipeline.Execution.ExecuteTask
import EventPipeline.Execution.Machine
import EventPipeline.Execution.Group
import EventPipeline.Execution.Forest
import EventPipeline.Execution.Termination
import EventPipeline.Execution.ContextList
import EventPipeline.Execution.Stopping
import EventPipeline.Execution.ContextLog
import EventPipeline.Execution.Terminal
import EventPipeline.Execution.Trace
import EventPipeline.Execution.QuietRun
import EventPipeline.Execution.Entry
import EventPipeline.Execution.Branching
import EventPipeline.Execution.Sinks
import EventPipeline.Execution.ParallelGroups
import EventPipeline.Execution.Origin
import EventPipeline.Execution.ParallelNodes
import EventPipeline.Execution.ParallelHelpers
import EventPipeline.Execution.PreviousResult
import EventPipeline.Execution.DataFlow
import EventPipeline.Translator.Statement
import EventPipeline.Translator.Dot
import EventPipeline.Translator.Drawing
import EventPipeline.Translator.Walk
import EventPipeline.Translator.Opened
import EventPipeline.Translator.Graph
import EventPipeline.Translator.Complete
import EventPipeline.Batch.Fields
import EventPipeline.Batch.FieldCache
import EventPipeline.Batch.Pickling
import EventPipeline.Batch.Signatures
import EventPipeline.Batch.Execute
import EventPipeline.Batch.Batches
import EventPipeline.Batch.Covering
import EventPipeline.Batch.Repeated
import EventPipeline.Batch.ListCalls
import EventPipeline.Batch.FileStream
import EventPipeline.Foundation.Interleaving
import EventPipeline.Signal.SoftSignal
import EventPipeline.Signal.Subscriptions
import EventPipeline.Signal.Forwarding
import EventPipeline.Batch.Monitor
import EventPipeline.Batch.Wrapper
import EventPipeline.Batch.Emission
import EventPipeline.Batch.Wiring
import EventPipeline.Batch.Accounting
import EventPipeline.Batch.Isolation
import EventPipeline.Batch.Completion
import EventPipeline.Execution.Live
import EventPipeline.Execution.Uninterrupted
import EventPipeline.Execution.Absorbing
import EventPipeline.Execution.RetryPolicy
import EventPipeline.Execution.SharedTree
import EventPipeline.Execution.SharedRun
import EventPipeline.Execution.Unordered
import EventPipeline.Execution.Lossless
import EventPipeline.Execution.Serialization
import EventPipeline.Execution.Restoring
import EventPipeline.Execution.ContextState
import EventPipeline.Execution.FilterByEvent
import EventPipeline.Foundation.Grouping
import EventPipeline.Execution.ExecutorConfig
import EventPipeline.Execution.ExecutorMap
import EventPipeline.Execution.Gathering
import EventPipeline.Execution.Submission
import EventPipeline.Execution.ExecutorOrder
import EventPipeline.Execution.Repeatable
import EventPipeline.Foundation.ByteStream
import EventPipeline.Foundation.Future
import EventPipeline.Network.Framing
import EventPipeline.Network.TaskMessage
import EventPipeline.Network.Truncation
import EventPipeline.Network.RemoteManager
import EventPipeline.Telemetry.NetworkTelemetry
import EventPipeline.Network.SendTask
import EventPipeline.Executors.RemoteExecutor
import EventPipeline.Executors.Shutdown
import EventPipeline.Executors.GrpcExecutor
import EventPipeline.Executors.Resolution
import EventPipeline.Execution.EventCall
import EventPipeline.Execution.RetryTrace
import EventPipeline.Execution.CallOutcome
import EventPipeline.Executors.Transparency
import EventPipeline.Execution.Goto
import EventPipeline.Execution.GotoVisit
import EventPipeline.Foundation.SharedServer
import EventPipeline.Foundation.SqlTable
import EventPipeline.Foundation.Wildcards
import EventPipeline.Store.Backend
import EventPipeline.Store.Interchange
import EventPipeline.Store.Concurrent
import EventPipeline.Store.SqlStores
import EventPipeline.Store.SqlReadBack
import EventPipeline.Store.SqliteKeys
import EventPipeline.Store.SqlFilter
import EventPipeline.Store.PostgresFilter
import EventPipeline.Store.SqlLike
import EventPipeline.Connector.PooledConnections
import EventPipeline.Connector.Lending
import EventPipeline.Connector.PooledManager
import EventPipeline.Connector.Exclusive
import EventPipeline.Connector.IdleCleanup
import EventPipeline.Connector.Capacity
import EventPipeline.Foundation.Routine
import EventPipeline.Executors.HadoopJobs
import EventPipeline.Executors.HadoopExecutor
import EventPipeline.Executors.HadoopPolling
import EventPipeline.Executors.HadoopSound
import EventPipeline.Executors.HadoopCalls
import EventPipeline.Executors.HadoopRuns
import EventPipeline.Executors.HadoopPlay
import EventPipeline.Executors.HadoopResults
import EventPipeline.Executors.HadoopShutdown
import EventPipeline.Store.Saving
import EventPipeline.Store.SavingRuns
import EventPipeline.Store.SavedRecords
import EventPipeline.Executors.XmlRpc
import EventPipeline.Executors.XmlRpcWorker
import EventPipeline.Executors.XmlRpcPool
import EventPipeline.Executors.XmlRpcTransparency
import EventPipeline.Executors.RemoteTransparency
import EventPipeline.Telemetry.BatchLogger
