import OpenSmsc.Foundation.Machine
import OpenSmsc.Foundation.Components
import OpenSmsc.Foundation.Reader
import OpenSmsc.Foundation.Standing
import OpenSmsc.Foundation.Collections
import OpenSmsc.Foundation.Numeral
import OpenSmsc.Foundation.Framing
import OpenSmsc.Foundation.WriteQueue
import OpenSmsc.Foundation.Masks
import OpenSmsc.Foundation.Ownership
import OpenSmsc.Foundation.TokenBucket
import OpenSmsc.Foundation.TimerQueue
import OpenSmsc.Foundation.Registers
import OpenSmsc.Foundation.Threads
import OpenSmsc.Foundation.Lanes
import OpenSmsc.Octets
import OpenSmsc.TextInput
import OpenSmsc.Authenticator.CredentialsStore
import OpenSmsc.Authenticator.Reload
import OpenSmsc.Client.Pdu
import OpenSmsc.Client.SubmitSmCodec
import OpenSmsc.Client.Truncation
import OpenSmsc.Client.Session
import OpenSmsc.Client.Lifecycle
import OpenSmsc.Client.Outputs
import OpenSmsc.Client.Requests
import OpenSmsc.Client.SequenceNumbers
import OpenSmsc.Client.Authorisation
import OpenSmsc.Client.Life
import OpenSmsc.Client.Ending
import OpenSmsc.Client.Answers
import OpenSmsc.Client.Echo
import OpenSmsc.Client.SocketUse
import OpenSmsc.Client.Wire
import OpenSmsc.Client.ReadLoop
import OpenSmsc.Client.Bind
import OpenSmsc.Client.MessageId
import OpenSmsc.Client.SubmitAccounting
import OpenSmsc.Client.Throttle
import OpenSmsc.Client.IoContext
import OpenSmsc.Client.Keepalive
import OpenSmsc.Client.Deadlines
import OpenSmsc.Client.OutboundStream
import OpenSmsc.Client.SessionThreads
import OpenSmsc.Client.Main
import OpenSmsc.Client.StateMachine
import OpenSmsc.Client.StateMachineV2
import OpenSmsc.Client.StateMachineAgreement
import OpenSmsc.Client.StateMachineV2Runs
import OpenSmsc.Server.IpValidator
import OpenSmsc.Server.WhitelistReload
import OpenSmsc.Server.SessionId
import OpenSmsc.Server.PduFramer
import OpenSmsc.Server.PduFramerInvariant
import OpenSmsc.Server.SmppHandler
import OpenSmsc.Server.ClientHandler
import OpenSmsc.Server.WriteOrder
import OpenSmsc.Server.UnbindClose
import OpenSmsc.Server.ConnectionRegistry
import OpenSmsc.Server.Service
import OpenSmsc.Server.RegistryRuns
import OpenSmsc.Server.RegistryIsolation
import OpenSmsc.Server.Admission
import OpenSmsc.Server.SessionTable
import OpenSmsc.Server.TcpServer
import OpenSmsc.Server.LaunchCommand
import OpenSmsc.Server.Connections
import OpenSmsc.Server.Descriptors
import OpenSmsc.Network.CommandIds
import OpenSmsc.Network.Processes
import OpenSmsc.Network.Agreement
import OpenSmsc.Network.StaleRows
import OpenSmsc.Network.Host
import OpenSmsc.Network.HostRuns
import OpenSmsc.Network.HostExhaustion
import OpenSmsc.Network.Relay
import OpenSmsc.Network.RelaySessions
import OpenSmsc.Network.RelayRows
import OpenSmsc.Network.RelayOrder
import OpenSmsc.Network.RelayWire
import OpenSmsc.Network.RelayProgress
import OpenSmsc.Network.RelayLoss
import OpenSmsc.Network.RelayDisconnect
import OpenSmsc.Network.Gateway
