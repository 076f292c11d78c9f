import WebTransport.Data.Occurrences
import WebTransport.Data.StructuredField
import WebTransport.Data.PrefixCode
import WebTransport.Data.Utf8
import WebTransport.Data.Reads
import WebTransport.Bindings.Utf8
import WebTransport.Data.OrdMap
import WebTransport.Data.OrdSet
import WebTransport.Data.Path
import WebTransport.Data.Trace
import WebTransport.Data.Skip
import WebTransport.Bindings.QuicVarint
import WebTransport.Bindings.VarintWords
import WebTransport.Bindings.PythonInput
import WebTransport.Bindings.TextUtil
import WebTransport.Bindings.HeaderConvert
import WebTransport.H2.Types
import WebTransport.H2.Streams
import WebTransport.H2.Capsules
import WebTransport.H2.Received
import WebTransport.H2.Session
import WebTransport.H2.Framing
import WebTransport.H2.ConnWindow
import WebTransport.H2.Transitions
import WebTransport.H2.Runs
import WebTransport.H2.RecvSide
import WebTransport.H2.SendSide
import WebTransport.H2.Flush
import WebTransport.H2.Calls
import WebTransport.H2.Unfinished
import WebTransport.H2.Directions
import WebTransport.H2.Varints
import WebTransport.H2.Endings
import WebTransport.H3.Types
import WebTransport.H3.Guard
import WebTransport.H3.Session
import WebTransport.H3.ErrorCodes
import WebTransport.H3.Ledger
import WebTransport.H3.Lanes
import WebTransport.H3.Bookkeeping
import WebTransport.H3.Endings
import WebTransport.H3.Transparency
import WebTransport.H3.Meter
import WebTransport.H3.Metering
import WebTransport.H3.PreAccept
import WebTransport.Qmux.Connection
import WebTransport.Qmux.Delivery
import WebTransport.Quic.Types
import WebTransport.Quic.Connection
import WebTransport.Quic.Closing
import WebTransport.Quic.Retention
import WebTransport.Quic.Addresses
import WebTransport.Quic.EmptyWrites
import WebTransport.Quic.Evolution
import WebTransport.Data.History
import WebTransport.Http2.Windows
import WebTransport.Http2.Release
import WebTransport.Data.Outflow
import WebTransport.Http2.SendQueue
import WebTransport.H2.CapsuleQueue
import WebTransport.Data.Dict
import WebTransport.Server.DcidIndex
import WebTransport.Server.Quic
import WebTransport.Server.Tables
import WebTransport.Server.Routing
import WebTransport.Server.Delivery
import WebTransport.Server.H3
import WebTransport.Server.Completion
import WebTransport.H2.Invariants
import WebTransport.H2.StreamWindow
import WebTransport.H2.RecvWindow
import WebTransport.Data.Quota
import WebTransport.H2.StreamTable
import WebTransport.H2.StreamCounts
import WebTransport.H2.Life
import WebTransport.H2.Grants
import WebTransport.H2.Sent
import WebTransport.H2.CloseMessage
import WebTransport.Quic.VerifyError
import WebTransport.Qmux.CloseReason
import WebTransport.Quic.ShortHeader
import WebTransport.Client.WtUrl
import WebTransport.H2.AcceptFailure
import WebTransport.H2.QueueKeys
import WebTransport.H2.CapsuleSize
import WebTransport.H2.InitHeader
import WebTransport.H2.Bounds
import WebTransport.H2.Remembered
import WebTransport.Data.Dispatch
import WebTransport.Quic.Datagrams
import WebTransport.Qmux.Datagrams
import WebTransport.H3.SendBuffers
import WebTransport.Http3.SendSide
import WebTransport.Client.Quic
import WebTransport.Data.ReadyQueue
import WebTransport.Client.Waiters
import WebTransport.Client.WakeUps
import WebTransport.H2.Absorbing
import WebTransport.Data.Ascent
import WebTransport.H2.Advertised
import WebTransport.H2.EndMark
import WebTransport.H2.Histories
import WebTransport.H2.Account
import WebTransport.H2.Honest
import WebTransport.H2.Prompts
import WebTransport.H2.Ledger
import WebTransport.H2.Endpoint
import WebTransport.H2.Wire
import WebTransport.H2.Opening
import WebTransport.H2.Exchange
import WebTransport.H2.Parked
import WebTransport.H2.Progress
import WebTransport.H2.Transfer
import WebTransport.H2.Acceptance
