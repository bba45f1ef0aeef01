import MarketWire.Stream.Session.Basic

namespace MarketWire.Stream

inductive Branch where
  | proceed
  | read
  | command
  | timer
  deriving DecidableEq, Repr

inductive Progress where
  | more (a : Attempt)
  | done (link : Nat)
  | failed (e : StreamError)
  deriving DecidableEq

namespace Session

def failAttempt (s : Session) (n : Nat) (e : StreamError) : Session × Progress :=
  ((s.dropLink n).withPhase .closed, .failed e)

def dial (s : Session) : Session × Progress :=
  match Address.parse s.profile.url with
  | .error e => (s.withPhase .closed, .failed e)
  | .ok address =>
      let n := s.links.length + 1
      ({ s with links := s.links ++ [Link.opening n address s.profile.endpoint.headers] },
        .more (.upgrading n (s.now + s.settings.connectTimeout)))

def login (s : Session) (n : Nat) (c : Credentials) : Session × Progress :=
  let (seconds, clock) := s.clock.draw
  let s := { s with clock }.withPhase .authenticating
  (s.write n (.request (.login (Signature.Login.signed c seconds))),
    .more (.loggingIn n (s.now + s.settings.loginTimeout)))

def onUpgrade (s : Session) (n : Nat) : Upgrade → Session × Progress
  | .refused fault => s.failAttempt n (.ofFault fault)
  | .accepted =>
      match s.profile.access with
      | .account c => s.login n c
      | .marketData => (s.withPhase .ready, .more (.connected n))

def loginVerdict (text : String) : Option (Except StreamError Unit) :=
  match Message.decode text with
  | .ok (.event e) =>
      if e.kind = .login ∧ e.isSuccess then some (.ok ())
      else if e.kind = .login ∨ e.kind = .error then
        some (.error (.loginFailed (e.code.getD "") (e.msg.getD "")))
      else none
  | _ => none

def loginTimeout (s : Session) : StreamError :=
  .loginFailed "timeout"
    ("no login response within " ++ natText (Clock.Span.millis s.settings.loginTimeout) ++ "ms")

def onLoginArrival (s : Session) (n deadline : Nat) : Arrival → Session × Progress
  | .text content =>
      match loginVerdict content with
      | some (.ok ()) => (s.withPhase .ready, .more (.connected n))
      | some (.error e) => s.failAttempt n e
      | none => (s, .more (.loggingIn n deadline))
  | .ping payload => (s.write n (.pong payload), .more (.loggingIn n deadline))
  | .close frame => s.failAttempt n (.ofClose frame)
  | .failure fault => s.failAttempt n (.ofFault fault)
  | .endOfStream => s.failAttempt n (.connectionClosed 1006 "Stream ended during login")
  | _ => (s, .more (.loggingIn n deadline))

def replayOne (s : Session) (n : Nat) (x : Channel.Subscription) (rest : List Channel.Subscription) :
    Session × Progress :=
  if s.phase = .ready then (s.onLink n (·.subscribe x), .more (.replaying n rest))
  else (s.dropLink n, .failed .notConnected)

def isUnanswered (s : Session) (n : Nat) : Bool := (s.link? n).all (·.answer.isNone)

def isQuiet (s : Session) (n : Nat) : Bool := (s.link? n).all (·.inbound.isEmpty)

def attemptStep (s : Session) : Attempt → Branch → Option (Session × Progress)
  | .starting, .proceed => some s.dial
  | .upgrading n _, .read => ((s.link? n).bind Link.answer).map (s.onUpgrade n)
  | .upgrading n deadline, .timer =>
      if deadline ≤ s.now ∧ s.isUnanswered n then some (s.failAttempt n .timedOut) else none
  | .loggingIn n deadline, .read =>
      (s.nextArrival n).map fun r => r.2.onLoginArrival n deadline r.1
  | .loggingIn n deadline, .timer =>
      if deadline ≤ s.now ∧ s.isQuiet n then some (s.failAttempt n s.loginTimeout) else none
  | .connected n, .proceed =>
      let s := { s with registry := s.registry.resetConfirmations }
      some (s, .more (.replaying n s.registry.all))
  | .replaying n (x :: rest), .proceed => some (s.replayOne n x rest)
  | .replaying n [], .proceed => some (s, .done n)
  | _, _ => none

end Session

end MarketWire.Stream
