import MarketWire.Endpoint
import MarketWire.Stream.Backoff

namespace MarketWire.Stream

inductive Overflow where
  | wait
  | dropOldest
  deriving DecidableEq, Repr

def Overflow.describe : Overflow → String
  | wait => "Block"
  | dropOldest => "DropOldest"

structure Settings where
  pingInterval : Nat
  pongTimeout : Nat
  loginTimeout : Nat
  connectTimeout : Nat
  queueCapacity : Nat
  overflow : Overflow
  commandCapacity : Nat
  forwardAcks : Bool
  backoff : Backoff

namespace Settings

open Clock

def standard : Settings :=
  ⟨Span.ofSeconds 25, Span.ofSeconds 10, Span.ofSeconds 5, Span.ofSeconds 30, 1000, .wait, 100, true,
    Backoff.standard⟩

def withMaxAttempts (s : Settings) (attempts : Option Nat) : Settings :=
  { s with backoff := { s.backoff with maxAttempts := attempts } }

def describe (s : Settings) : String :=
  let count (n : Nat) : String := String.ofList (Number.digitsOf n)
  "WebSocketConfig \x7b ping_interval: " ++ Span.describe s.pingInterval
    ++ ", pong_timeout: " ++ Span.describe s.pongTimeout
    ++ ", login_timeout: " ++ Span.describe s.loginTimeout
    ++ ", connect_timeout: " ++ Span.describe s.connectTimeout
    ++ ", queue_capacity: " ++ count s.queueCapacity
    ++ ", overflow_policy: " ++ s.overflow.describe
    ++ ", command_channel_capacity: " ++ count s.commandCapacity
    ++ ", forward_acks: " ++ Endpoint.describeBool s.forwardAcks
    ++ ", reconnect: " ++ s.backoff.describe ++ " \x7d"

end Settings

end MarketWire.Stream
