import Bintrade.Core.SpscFifo
import Bintrade.Core.SpscRefinement
import Bintrade.Core.SpscDestructor
import Bintrade.Core.SpscSize
import Bintrade.Core.Clock
import Bintrade.Rest.SignatureCoverage
import Bintrade.Rest.Payload
import Bintrade.Rest.ParameterIntegrity
import Bintrade.Rest.OrderAmounts
import Bintrade.Rest.OrderRoundTrip
import Bintrade.Rest.RequestWire
import Bintrade.Rest.TradingSession
import Bintrade.Rest.RateTracking
import Bintrade.Rest.ErrorsAsData
import Bintrade.Rest.PoolOwnership
import Bintrade.Rest.PoolCapacity
import Bintrade.Rest.Submission
import Bintrade.Rest.CallTermination
import Bintrade.Rest.SyncCalls
import Bintrade.Rest.SequentialUse
import Bintrade.Rest.FailedConnect
import Bintrade.Rest.TransportErrors
import Bintrade.Rest.ResponseMatching
import Bintrade.Rest.Retry
import Bintrade.Rest.Resubmission
import Bintrade.Rest.Persistence
import Bintrade.Ws.ErrorReporting
import Bintrade.Ws.ReconnectChain
import Bintrade.Ws.LiveLoop
import Bintrade.Ws.Recovery
import Bintrade.Ws.Backoff
import Bintrade.Ws.OutstandingReads
import Bintrade.Ws.ReadBuffer
import Bintrade.Ws.RetryTimers
import Bintrade.Ws.CallsReturn
import Bintrade.Ws.CallbackDisconnect
import Bintrade.Ws.ConnectHandshake
import Bintrade.Ws.DisconnectRace
import Bintrade.Ws.HandlerAtomicity
import Bintrade.Ws.HandshakeAtomicity
import Bintrade.Ws.SendQueue
import Bintrade.Ws.Shutdown
import Bintrade.Ws.StreamSessions
import Bintrade.Ws.Destruction
import Bintrade.Ws.KeepAlive
import Bintrade.Ws.KeyDeletion
import Bintrade.Ws.RenewalTimes
import Bintrade.Ws.FailedStart
import Bintrade.Ws.ThreadHandles
import Bintrade.Ws.CallOrder
import Bintrade.Ws.KeyLeases
import Bintrade.Ws.MovedStreams
import Bintrade.Ws.Indexing
import Bintrade.Ws.TradeViews
import Bintrade.Ws.ModelViews
import Bintrade.Ws.TypedDispatch
import Bintrade.Ws.AccountViews
import Bintrade.Ws.QueuedCallbacks
import Bintrade.Ws.ConsumerStops
import Bintrade.Ws.ParsedWssUrl
