import MarketWire.Stream.Session.Attempt

namespace MarketWire.Stream

def Keepalive.wakeAt (k : Keepalive) (settings : Settings) : Nat :=
  k.pongDeadline.getD (k.lastActivity + settings.pingInterval)

namespace Session

def failLink (s : Session) (n : Nat) (e : StreamError) : Session :=
  { (s.dropLink n).withPhase .closed with worker := .deciding 0 e }

def beginStop (s : Session) (n : Nat) (why : Farewell) : Session :=
  { (s.withPhase .closing).write n Link.farewell with worker := .stopping n why }

def onText (s : Session) (n : Nat) (k : Keepalive) (content : String) : Session :=
  match Router.route s.settings.forwardAcks s.registry content with
  | (registry, .pong) =>
      { s with registry, worker := .reading n { k with pongDeadline := none } }
  | (registry, .consumed) => { s with registry, worker := .reading n k }
  | (registry, .deliver m) => { s with registry, worker := .pushing n m k }

def onArrival (s : Session) (n : Nat) (k : Keepalive) (a : Arrival) : Session :=
  let k := { k with lastActivity := s.now }
  match a with
  | .text content => s.onText n k content
  | .ping payload => { s.write n (.pong payload) with worker := .reading n k }
  | .close frame => s.failLink n (.ofClose frame)
  | .failure fault => s.failLink n (.ofFault fault)
  | .endOfStream => s.failLink n .streamEnded
  | _ => { s with worker := .reading n k }

def onCommand (s : Session) (n : Nat) (k : Keepalive) : Command → Session
  | .subscribe x =>
      if s.phase = .ready ∨ (s.link? n).any fun l => l.carried.contains x then
        { s.onLink n (·.subscribe x) with worker := .reading n { k with lastActivity := s.now } }
      else s.failLink n .notConnected
  | .unsubscribe x =>
      if s.phase = .ready then
        { s.onLink n (·.unsubscribe x) with worker := .reading n { k with lastActivity := s.now } }
      else s.failLink n .notConnected
  | .close => s.beginStop n .closed
  | .detach => s.beginStop n .detached

def onWake (s : Session) (n : Nat) (k : Keepalive) : Session :=
  match k.pongDeadline with
  | some _ => s.failLink n (.pongTimeout (Clock.Span.millis s.settings.pongTimeout))
  | none =>
      { s.write n .ping with
        worker := .reading n ⟨s.now, some (s.now + s.settings.pongTimeout)⟩ }

def onPush (s : Session) (n : Nat) (m : Message) (k : Keepalive) : Option Session :=
  match s.mailbox.offer m with
  | .taken mailbox => some { s with mailbox, worker := .reading n k }
  | .refused => some (s.beginStop n .closed)
  | .wait => none

def endStop (s : Session) (n : Nat) : Farewell → Session
  | .detached => ((s.dropLink n).withPhase .closed).endWorker
  | .closed =>
      { ((s.dropLink n).withPhase .closed).endWorker with mailbox := s.mailbox.close }

def giveUp (s : Session) (e : StreamError) : Session :=
  { (s.withPhase .closed).endWorker with lastError := some e, mailbox := s.mailbox.finish }

def decide (s : Session) (attempts : Nat) (lastError : StreamError) : Session :=
  if s.settings.backoff.allows attempts then
    let draw := s.draws.headD 0.0
    { s.withPhase .disconnected with
      draws := s.draws.drop 1
      worker := .waiting (attempts + 1) (s.now + s.settings.backoff.delay attempts draw) }
  else s.giveUp (.exhausted attempts lastError.message)

def onPauseCommand (s : Session) : Command → Session
  | .close => { (s.withPhase .closed).endWorker with mailbox := s.mailbox.close }
  | .detach => s.endWorker
  | _ => s

def onProgress (s : Session) (attempts : Nat) : Progress → Session
  | .more a => { s with worker := .attempting attempts a }
  | .done n => { s with worker := .reading n ⟨s.now, none⟩ }
  | .failed e =>
      if e.isAuth then s.giveUp e else { s with worker := .deciding attempts e }

def workerStep (s : Session) (b : Branch) : Option Session :=
  match s.worker, b with
  | .reading n k, .read => (s.nextArrival n).map fun r => r.2.onArrival n k r.1
  | .reading n k, .command => s.nextCommand.map fun r => r.2.onCommand n k r.1
  | .reading n k, .timer => if k.wakeAt s.settings ≤ s.now then some (s.onWake n k) else none
  | .pushing n m k, .proceed => s.onPush n m k
  | .stopping n why, .proceed => some (s.endStop n why)
  | .deciding attempts e, .proceed => some (s.decide attempts e)
  | .waiting _ _, .command => s.nextCommand.map fun r => r.2.onPauseCommand r.1
  | .waiting attempts wakeAt, .timer =>
      if wakeAt ≤ s.now then
        some { s.withPhase .connecting with worker := .attempting attempts .starting }
      else none
  | .attempting attempts a, b => (s.attemptStep a b).map fun r => r.1.onProgress attempts r.2
  | _, _ => none

end Session

end MarketWire.Stream
