import ChatCore.Api.JsonApi
import ChatCore.Api.Messages
import ChatCore.Api.RpcCalls
import ChatCore.Apps.ClientCommands
import ChatCore.Apps.OperatorInput
import ChatCore.Client.ClientRun
import ChatCore.Client.Conversation
import ChatCore.Client.RemoteCalls
import ChatCore.Client.ServedClient
import ChatCore.Client.SessionSystem
import ChatCore.Client.UiSystem
import ChatCore.Lib.Ascending
import ChatCore.Lib.Bimap
import ChatCore.Lib.History
import ChatCore.Lib.Json
import ChatCore.Lib.JsonExact
import ChatCore.Lib.JsonText
import ChatCore.Lib.Lts
import ChatCore.Lib.Numeral
import ChatCore.Lib.PrefixCode
import ChatCore.Lib.Since
import ChatCore.Lib.Table
import ChatCore.Lib.Wakeup
import ChatCore.Network.Connection
import ChatCore.Network.JsonNetworkCodec
import ChatCore.Network.MessageLoop
import ChatCore.Network.MessageProcessor
import ChatCore.Network.ReadLoop
import ChatCore.Network.RpcSystem
import ChatCore.Network.TcpConnection
import ChatCore.Network.Transport
import ChatCore.Proofs.Answers
import ChatCore.Proofs.ChannelFeed
import ChatCore.Proofs.ChannelList
import ChatCore.Proofs.ChatService
import ChatCore.Proofs.ClientCommands
import ChatCore.Proofs.ClientLogin
import ChatCore.Proofs.ClientRun
import ChatCore.Proofs.ConnectionEvents
import ChatCore.Proofs.Conversation
import ChatCore.Proofs.Decoding
import ChatCore.Proofs.Delivery
import ChatCore.Proofs.Disconnect
import ChatCore.Proofs.Emission
import ChatCore.Proofs.FailedPersist
import ChatCore.Proofs.FrameBounds
import ChatCore.Proofs.FrameSizes
import ChatCore.Proofs.Framing
import ChatCore.Proofs.Handlers
import ChatCore.Proofs.History
import ChatCore.Proofs.Lifecycle
import ChatCore.Proofs.LoadTest
import ChatCore.Proofs.Membership
import ChatCore.Proofs.MessageLog
import ChatCore.Proofs.MessageLoop
import ChatCore.Proofs.MessageOrder
import ChatCore.Proofs.MessageStore
import ChatCore.Proofs.OperatorInput
import ChatCore.Proofs.Paging
import ChatCore.Proofs.Passes
import ChatCore.Proofs.Persistence
import ChatCore.Proofs.Preparation
import ChatCore.Proofs.Presence
import ChatCore.Proofs.Prewarm
import ChatCore.Proofs.RemoteCalls
import ChatCore.Proofs.Replies
import ChatCore.Proofs.RowIds
import ChatCore.Proofs.RpcCalls
import ChatCore.Proofs.RpcSteps
import ChatCore.Proofs.RpcTimeouts
import ChatCore.Proofs.Scheduler
import ChatCore.Proofs.SendQueue
import ChatCore.Proofs.ServedClient
import ChatCore.Proofs.SessionSystem
import ChatCore.Proofs.Sessions
import ChatCore.Proofs.Shutdown
import ChatCore.Proofs.SignalSubscription
import ChatCore.Proofs.Startup
import ChatCore.Proofs.Stores
import ChatCore.Proofs.TaskRemoval
import ChatCore.Proofs.TcpServer
import ChatCore.Proofs.Transport
import ChatCore.Proofs.UiSystem
import ChatCore.Proofs.UserCache
import ChatCore.Proofs.WireFormat
import ChatCore.Scheduling.Passes
import ChatCore.Scheduling.SchedulingSystem
import ChatCore.Server.ChannelStore
import ChatCore.Server.ChatService
import ChatCore.Server.Database
import ChatCore.Server.Disconnect
import ChatCore.Server.Handlers
import ChatCore.Server.Lifecycle
import ChatCore.Server.Lifetime
import ChatCore.Server.MessageStore
import ChatCore.Server.Observers
import ChatCore.Server.Presence
import ChatCore.Server.Replies
import ChatCore.Server.ReplySizes
import ChatCore.Server.SqliteCalls
import ChatCore.Server.Steps
import ChatCore.Server.TcpServer
import ChatCore.Server.UserCalls
import ChatCore.Server.UserStore
import ChatCore.Tester.LoadTest
import ChatCore.Utility.Signal
import ChatCore.Utility.SignalSubscription
