/-! The configuration of `config.hpp` that decides how the streams behave. -/

namespace Bintrade.Core

/-- How WebSocket messages go from the I/O thread to user callbacks. -/
inductive DispatchMode where
  | inline
  | queued
  deriving DecidableEq

/-- The settings of a WebSocket connection that its reconnect logic reads; the
interval is in seconds. -/
structure WebSocketConfig where
  reconnectInterval : Int := 5
  maxReconnectAttempts : Int := 10

end Bintrade.Core
