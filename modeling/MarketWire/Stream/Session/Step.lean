import MarketWire.Stream.Session.Call
import MarketWire.Stream.Session.Worker

namespace MarketWire.Stream

inductive Move where
  | elapse (span : Nat)
  | invoke (a : Action)
  | abandon (call : Nat)
  | call (id : Nat) (b : Branch)
  | cutOff (call : Nat)
  | worker (b : Branch)
  | answer (link : Nat) (u : Upgrade)
  | arrive (link : Nat) (a : Arrival)
  deriving DecidableEq

namespace Session

def invoke (s : Session) (a : Action) : Option Session :=
  if a = .connect ∧ s.calls.isEmpty ∨ a ≠ .connect ∧ s.opened then
    some { s with calls := s.calls ++ [⟨s.calls.length, a, .begun⟩] }
  else none

def abandon (s : Session) (id : Nat) : Option Session :=
  (s.call? id).bind fun c =>
    if c.action = .receive ∧ c.stage = .begun then
      some { s with calls := s.calls.map fun c =>
        if c.id = id then { c with stage := .over .done } else c }
    else none

def answerLink (s : Session) (n : Nat) (u : Upgrade) : Option Session :=
  (s.link? n).bind fun l =>
    if l.answer = none then some (s.onLink n fun l => { l with answer := some u }) else none

def arrive (s : Session) (n : Nat) (a : Arrival) : Option Session :=
  (s.link? n).bind fun l =>
    if l.answer = some .accepted then
      some (s.onLink n fun l => { l with inbound := l.inbound ++ [a] })
    else none

def step (s : Session) : Move → Option Session
  | .elapse span => some { s with now := s.now + span }
  | .invoke a => s.invoke a
  | .abandon id => s.abandon id
  | .call id b => (s.call? id).bind fun c => s.callStep c b
  | .cutOff id => (s.call? id).bind s.cutOff
  | .worker b => s.workerStep b
  | .answer n u => s.answerLink n u
  | .arrive n a => s.arrive n a

inductive Run : Session → List Move → Session → Prop where
  | nil (s : Session) : Run s [] s
  | cons {s t u : Session} {m : Move} {ms : List Move} :
      s.step m = some t → Run t ms u → Run s (m :: ms) u

end Session

end MarketWire.Stream
