import MarketWire.Router
import MarketWire.Stream.Address
import MarketWire.Stream.Error
import MarketWire.Stream.Request

namespace MarketWire.Stream

open Channel (Subscription)

inductive Arrival where
  | text (content : String)
  | ping (payload : String)
  | pong (payload : String)
  | binary
  | close (frame : Option (Nat × String))
  | failure (fault : TransportFault)
  | endOfStream
  deriving DecidableEq, Repr

inductive Frame where
  | request (r : Request)
  | ping
  | pong (payload : String)
  | close (code : Nat) (reason : String)
  deriving DecidableEq

def Frame.text? : Frame → Option String
  | request r => some r.text
  | ping => some Router.ping
  | _ => none

inductive Upgrade where
  | accepted
  | refused (fault : TransportFault)
  deriving DecidableEq, Repr

structure Link where
  number : Nat
  address : Address
  headers : List (String × String)
  answer : Option Upgrade
  inbound : List Arrival
  written : List Frame
  carried : List Subscription
  live : Bool
  deriving DecidableEq

namespace Link

def opening (number : Nat) (address : Address) (headers : List (String × String)) : Link :=
  ⟨number, address, headers, none, [], [], [], true⟩

-- Writing never fails: a transport that takes no more frames ends as one whose next arrival is a
-- failure, which differs in the error that is kept and in the frame counted as written.
def write (l : Link) (f : Frame) : Link := { l with written := l.written ++ [f] }

def drop (l : Link) : Link := { l with live := false }

def subscribe (l : Link) (s : Subscription) : Link :=
  if s ∈ l.carried then l
  else { l.write (.request (.subscribe [s])) with carried := l.carried ++ [s] }

def unsubscribe (l : Link) (s : Subscription) : Link :=
  { l with carried := l.carried.filter (· != s) }.write (.request (.unsubscribe [s]))

def farewell : Frame := .close 1000 "Client disconnect"

end Link

def StreamError.ofClose : Option (Nat × String) → StreamError
  | some (code, reason) => .connectionClosed code reason
  | none => .connectionClosed 1006 "No close frame"

def StreamError.streamEnded : StreamError := .connectionClosed 1006 "Stream ended"

end MarketWire.Stream
