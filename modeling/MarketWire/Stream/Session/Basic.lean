import MarketWire.Endpoint
import MarketWire.Registry
import MarketWire.Stream.Access
import MarketWire.Stream.Feed
import MarketWire.Stream.Link
import MarketWire.Stream.Mailbox
import MarketWire.Stream.Phase

namespace MarketWire.Stream

open Channel (Subscription)

structure Profile where
  endpoint : Endpoint
  settings : Settings
  access : Access

namespace Profile

def isPrivate (p : Profile) : Bool := p.access.isPrivate

def url (p : Profile) : String :=
  if p.isPrivate then p.endpoint.privateUrl else p.endpoint.publicUrl

def describe (p : Profile) : String :=
  "OkxWebSocketClientBuilder \x7b endpoint: " ++ p.endpoint.describe
    ++ ", config: " ++ p.settings.describe ++ ", .. \x7d"

end Profile

inductive Command where
  | subscribe (s : Subscription)
  | unsubscribe (s : Subscription)
  | close
  | detach
  deriving DecidableEq

structure CommandChannel where
  buffer : List Command
  sender : Bool
  deriving DecidableEq

inductive Attempt where
  | starting
  | upgrading (link deadline : Nat)
  | loggingIn (link deadline : Nat)
  | connected (link : Nat)
  | replaying (link : Nat) (rest : List Subscription)
  deriving DecidableEq

def Attempt.link? : Attempt → Option Nat
  | .starting => none
  | .upgrading n _ => some n
  | .loggingIn n _ => some n
  | .connected n => some n
  | .replaying n _ => some n

structure Keepalive where
  lastActivity : Nat
  pongDeadline : Option Nat
  deriving DecidableEq, Repr

inductive Farewell where
  | closed
  | detached
  deriving DecidableEq, Repr

inductive Worker where
  | idle
  | reading (link : Nat) (k : Keepalive)
  | pushing (link : Nat) (m : Message) (k : Keepalive)
  | stopping (link : Nat) (why : Farewell)
  | deciding (attempts : Nat) (lastError : StreamError)
  | waiting (attempts wakeAt : Nat)
  | attempting (attempts : Nat) (a : Attempt)
  deriving DecidableEq

def Worker.link? : Worker → Option Nat
  | .reading n _ => some n
  | .pushing n _ _ => some n
  | .stopping n _ => some n
  | .attempting _ a => a.link?
  | _ => none

inductive Action where
  | connect
  | follow (f : Feed)
  | subscribe (s : Subscription)
  | unsubscribe (s : Subscription)
  | reconnect
  | close
  | receive
  deriving DecidableEq

inductive Answer where
  | done
  | failed (e : StreamError)
  | message (m : Message)
  | ended
  deriving DecidableEq

inductive Stage where
  | begun
  | discarding
  | locking (a : Action)
  | changing (a : Action)
  | observing (s : Subscription)
  | sending (c : Command)
  | stopping (c : Command)
  | handing (c : Command)
  | joining (c : Command) (deadline : Nat)
  | attempting (a : Attempt)
  | over (a : Answer)
  deriving DecidableEq

structure Call where
  id : Nat
  action : Action
  stage : Stage
  deriving DecidableEq

structure LoginClock where
  seconds : List Int
  drawn : Nat
  deriving DecidableEq, Repr

def LoginClock.draw (c : LoginClock) : Int × LoginClock :=
  (c.seconds[c.drawn]?.getD (c.seconds.getLast?.getD 0), { c with drawn := c.drawn + 1 })

structure Session where
  profile : Profile
  clock : LoginClock
  draws : List Float
  now : Nat
  phase : Phase
  registry : Registry
  mailbox : Mailbox Message
  channel : CommandChannel
  worker : Worker
  links : List Link
  calls : List Call
  lock : Option Nat
  opened : Bool
  shut : Bool
  lastError : Option StreamError

namespace Session

def initial (p : Profile) (seconds : List Int) (draws : List Float) : Session where
  profile := p
  clock := ⟨seconds, 0⟩
  draws := draws
  now := 0
  phase := .disconnected
  registry := Registry.empty
  mailbox := Mailbox.empty p.settings.queueCapacity p.settings.overflow
  channel := ⟨[], false⟩
  worker := .idle
  links := []
  calls := []
  lock := none
  opened := false
  shut := false
  lastError := none

def settings (s : Session) : Settings := s.profile.settings

def link? (s : Session) (n : Nat) : Option Link := s.links.find? fun l => l.number == n

def onLink (s : Session) (n : Nat) (f : Link → Link) : Session :=
  { s with links := s.links.map fun l => if l.number = n then f l else l }

def write (s : Session) (n : Nat) (f : Frame) : Session := s.onLink n (·.write f)

def dropLink (s : Session) (n : Nat) : Session := s.onLink n Link.drop

def nextArrival (s : Session) (n : Nat) : Option (Arrival × Session) :=
  (s.link? n).bind fun l =>
    match l.inbound with
    | a :: rest => some (a, s.onLink n fun l => { l with inbound := rest })
    | [] => none

def withPhase (s : Session) (p : Phase) : Session := { s with phase := p }

def isSending (s : Session) : Bool :=
  s.calls.any fun c =>
    match c.stage with
    | .sending _ => true
    | .handing _ => true
    | _ => false

def nextCommand (s : Session) : Option (Command × Session) :=
  match s.channel.buffer with
  | c :: rest => some (c, { s with channel := { s.channel with buffer := rest } })
  | [] => if s.channel.sender || s.isSending then none else some (.close, s)

def send (s : Session) (c : Command) : Session :=
  { s with channel := { s.channel with buffer := s.channel.buffer ++ [c] } }

def hasRoom (s : Session) : Bool := s.channel.buffer.length < s.settings.commandCapacity

def endWorker (s : Session) : Session :=
  { s with worker := .idle, channel := { s.channel with buffer := [] } }

-- Ends the worker where it stands: without a farewell, without the message that it may be holding,
-- and with the phase as it is.
def abortWorker (s : Session) : Session :=
  { s.endWorker with
    links := s.links.map fun l => if s.worker.link? = some l.number then l.drop else l }

def startWorker (s : Session) (n : Nat) : Session :=
  { s with worker := .reading n ⟨s.now, none⟩, channel := ⟨[], true⟩ }

def call? (s : Session) (id : Nat) : Option Call := s.calls.find? fun c => c.id == id

def setStage (s : Session) (id : Nat) (stage : Stage) : Session :=
  { s with calls := s.calls.map fun c => if c.id = id then { c with stage } else c }

def finishCall (s : Session) (id : Nat) (a : Answer) : Session :=
  { s.setStage id (.over a) with lock := if s.lock = some id then none else s.lock }

def isConnected (s : Session) : Bool := s.phase == .ready

def describe (s : Session) : String :=
  "OkxWebSocketClient \x7b kind: "
    ++ Text.Quoted.quote (if s.profile.isPrivate then "private" else "public")
    ++ ", state: " ++ s.phase.describe
    ++ ", subscriptions: " ++ natText s.registry.count ++ " \x7d"

end Session

end MarketWire.Stream
