import MarketWire.Stream.Session.Attempt

namespace MarketWire.Stream

namespace Session

def beginSubscribe (s : Session) (id : Nat) (x : Channel.Subscription) : Session :=
  if s.shut then s.finishCall id (.failed .notConnected)
  else if x.isPrivate && !s.profile.isPrivate then
    s.finishCall id (.failed (.loginRequired x.channel))
  else s.setStage id (.locking (.subscribe x))

def beginLocked (s : Session) (id : Nat) (a : Action) : Session :=
  if s.shut then s.finishCall id (.failed .notConnected) else s.setStage id (.locking a)

def receive (s : Session) (id : Nat) : Option Session :=
  match s.mailbox.take with
  | .item m mailbox => some ({ s with mailbox }.finishCall id (.message m))
  | .ended => some (s.finishCall id .ended)
  | .wait => none

def begin (s : Session) (id : Nat) : Action → Option Session
  | .connect => some ((s.withPhase .connecting).setStage id (.attempting .starting))
  | .follow f =>
      match f.subscription with
      | .error e => some (s.finishCall id (.failed e))
      | .ok x => some (s.beginSubscribe id x)
  | .subscribe x => some (s.beginSubscribe id x)
  | .unsubscribe x => some (s.beginLocked id (.unsubscribe x))
  | .reconnect => some (s.beginLocked id .reconnect)
  | .close =>
      if s.shut then some (s.finishCall id .done)
      else some ({ s with shut := true }.setStage id .discarding)
  | .receive => s.receive id

def change (s : Session) (id : Nat) : Action → Session
  | .subscribe x =>
      match s.registry.add x with
      | (registry, true) => { s with registry }.setStage id (.sending (.subscribe x))
      | (_, false) => s.finishCall id .done
  | .unsubscribe x =>
      match s.registry.remove x with
      | (registry, true) => { s with registry }.setStage id (.observing x)
      | (_, false) => s.finishCall id .done
  | .reconnect => s.setStage id (.stopping .detach)
  | .close => s.setStage id (.stopping .close)
  | _ => s.finishCall id .done

def sendCommand (s : Session) (id : Nat) (c : Command) : Option Session :=
  if s.worker = .idle ∨ !s.channel.sender then some (s.finishCall id .done)
  else if s.hasRoom then some ((s.send c).finishCall id .done)
  else none

def stopTimeout : Nat := Clock.Span.ofSeconds 5

def stop (s : Session) (id : Nat) (c : Command) : Session :=
  if s.channel.sender then
    { s with channel := { s.channel with sender := false } }.setStage id (.handing c)
  else s.setStage id (.joining c (s.now + stopTimeout))

def hand (s : Session) (id : Nat) (c : Command) : Option Session :=
  if s.worker = .idle then some (s.setStage id (.joining c (s.now + stopTimeout)))
  else if s.hasRoom then some ((s.send c).setStage id (.joining c (s.now + stopTimeout)))
  else none

def join (s : Session) (id : Nat) (c : Command) : Option Session :=
  if s.worker = .idle then
    match c with
    | .detach => some ((s.withPhase .connecting).setStage id (.attempting .starting))
    | _ => some ((s.withPhase .closed).finishCall id .done)
  else none

-- Falls between two steps of the worker: a step that is under way at the deadline comes first.
def cutOff (s : Session) (c : Call) : Option Session :=
  match c.stage with
  | .joining _ deadline =>
      if deadline ≤ s.now ∧ s.worker ≠ .idle then some s.abortWorker else none
  | _ => none

def onCallProgress (s : Session) (c : Call) : Progress → Session
  | .more a => s.setStage c.id (.attempting a)
  | .done n =>
      { s.startWorker n with mailbox := s.mailbox.reopen.1, opened := true }.finishCall c.id .done
  | .failed e =>
      if c.action = .connect then s.finishCall c.id (.failed e)
      else
        { s.withPhase .closed with lastError := some e, mailbox := s.mailbox.finish }.finishCall
          c.id (.failed e)

def callStep (s : Session) (c : Call) (b : Branch) : Option Session :=
  match c.stage, b with
  | .begun, .proceed => s.begin c.id c.action
  | .discarding, .proceed =>
      some ({ s with mailbox := s.mailbox.close }.setStage c.id (.locking .close))
  | .locking a, .proceed =>
      if s.lock = none then some ({ s with lock := some c.id }.setStage c.id (.changing a)) else none
  | .changing a, .proceed => some (s.change c.id a)
  | .observing x, .proceed =>
      if s.phase = .ready then some (s.setStage c.id (.sending (.unsubscribe x)))
      else some (s.finishCall c.id .done)
  | .sending cmd, .proceed => s.sendCommand c.id cmd
  | .stopping cmd, .proceed => some (s.stop c.id cmd)
  | .handing cmd, .proceed => s.hand c.id cmd
  | .joining cmd _, .proceed => s.join c.id cmd
  | .attempting a, b => (s.attemptStep a b).map fun r => r.1.onCallProgress c r.2
  | _, _ => none

end Session

end MarketWire.Stream
