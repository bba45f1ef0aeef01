import MarketWire.Stream.Session.Step

namespace MarketWire.Stream

inductive Cue where
  | text (content : String)
  | ping (payload : String)
  | pong (payload : String)
  | binary
  | close (frame : Option (Nat × String))
  | drop
  deriving DecidableEq, Repr

namespace Cue

def isCloseCode (code : Nat) : Bool :=
  [1000, 1001, 1002, 1003, 1007, 1008, 1009, 1010, 1011, 1012, 1013].contains code
    || (3000 ≤ code && code < 5000)

def receivedClose : Nat × String → Nat × String
  | (code, reason) => if isCloseCode code then (code, reason) else (1002, "Protocol violation")

def maxControl : Nat := 125

def controlSize : Cue → Nat
  | .ping payload => payload.utf8ByteSize
  | .pong payload => payload.utf8ByteSize
  | .close (some (_, reason)) => 2 + reason.utf8ByteSize
  | _ => 0

def arrival (c : Cue) : Arrival :=
  if maxControl < c.controlSize then .failure .oversized
  else
    match c with
    | .text content => .text content
    | .ping payload => .ping payload
    | .pong payload => .pong payload
    | .binary => .binary
    | .close frame => .close (frame.map receivedClose)
    | .drop => .failure .reset

end Cue

inductive Reception where
  | accept
  | reject (status : Nat)
  | silence
  deriving DecidableEq, Repr

structure Plan where
  reception : Reception
  onLogin : List Cue
  answersPing : Bool
  deriving DecidableEq, Repr

structure Contact where
  number : Nat
  plan : Plan
  seen : Nat
  up : Bool
  reads : Bool
  saidFarewell : Bool
  deriving DecidableEq, Repr

inductive Entry where
  | opened (target : String) (simulated : Option String)
  | rejected (status : Nat)
  | hanging
  | text (content : String)
  | pong (payload : String)
  | close (code : Nat) (reason : String)
  deriving DecidableEq, Repr

structure Peer where
  site : Site
  plans : List Plan
  contacts : List Contact
  log : List (Nat × Entry)
  pings : Nat
  deriving DecidableEq, Repr

namespace Peer

def ofPlans (site : Site) (plans : List Plan) : Peer := ⟨site, plans, [], [], 0⟩

def loginSuccess : String := "\x7b\"event\":\"login\",\"code\":\"0\",\"msg\":\"\"\x7d"

def planOf (p : Peer) (number : Nat) : Plan :=
  p.plans[number - 1]?.getD ⟨.reject 503, [], true⟩

def note (p : Peer) (number : Nat) (e : Entry) : Peer := { p with log := p.log ++ [(number, e)] }

def onContact (p : Peer) (number : Nat) (f : Contact → Contact) : Peer :=
  { p with contacts := p.contacts.map fun c => if c.number = number then f c else c }

def refusal (status : Nat) : TransportFault :=
  if status = 101 then .violation "No \"Upgrade: websocket\" header"
  else if 100 ≤ status ∧ status < 1000 then .rejected status
  else .violation "httparse error: invalid response status"

def elsewhere : Host → TransportFault
  | .name labels => if labels = "localhost" then .refused else .unknownName
  | _ => .refused

end Peer

structure Encounter where
  session : Session
  peer : Peer
  -- The branches at which the read loop's next looks begin, over and over. The program draws them
  -- at random.
  starts : List Nat

namespace Encounter

def move (w : Encounter) (m : Move) : Encounter :=
  { w with session := (w.session.step m).getD w.session }

def cue (w : Encounter) (number : Nat) (c : Cue) : Encounter :=
  let w := w.move (.arrive number (c.arrival))
  match c with
  | .close _ =>
      { w with peer := w.peer.onContact number fun c => { c with up := false, saidFarewell := true } }
  | .drop =>
      { w with peer := w.peer.onContact number fun c => { c with up := false, reads := false } }
  | _ => w

def meet (w : Encounter) (l : Link) : Encounter :=
  let plan := w.peer.planOf l.number
  let accepts := plan.reception == .accept
  let contact : Contact := ⟨l.number, plan, 0, accepts, accepts, false⟩
  let peer := { w.peer with contacts := w.peer.contacts ++ [contact] }
  if l.address.site ≠ w.peer.site then
    w.move (.answer l.number (.refused (Peer.elsewhere l.address.site.host)))
  else
    match plan.reception with
    | .accept =>
        { w with
          peer := peer.note l.number
            (.opened l.address.target (l.headers.lookup Signature.simulatedHeader))
          }.move (.answer l.number .accepted)
    | .reject status =>
        { w with peer := peer.note l.number (.rejected status) }.move
          (.answer l.number (.refused (Peer.refusal status)))
    | .silence => { w with peer := peer.note l.number .hanging }

def noteText (w : Encounter) (number : Nat) (content : String) : Encounter :=
  { w with peer := w.peer.note number (.text content) }

def see (w : Encounter) (c : Contact) (f : Frame) : Encounter :=
  match f with
  | .request (.login l) =>
      c.plan.onLogin.foldl (fun w cue => if w.peer.contacts.any fun d => d.number == c.number && d.up
        then w.cue c.number cue else w) (w.noteText c.number (Request.login l).text)
  | .request r => w.noteText c.number r.text
  | .ping =>
      let w := { w with peer := { w.peer with pings := w.peer.pings + 1 } }
      if c.plan.answersPing && c.up then w.cue c.number (.text Router.pong) else w
  | .pong payload => { w with peer := w.peer.note c.number (.pong payload) }
  | .close code reason =>
      let peer := w.peer.onContact c.number fun c => { c with up := false, reads := false }
      { w with peer := if c.saidFarewell then peer else peer.note c.number (.close code reason) }

def attend (w : Encounter) (l : Link) : Encounter :=
  match w.peer.contacts.find? fun c => c.number == l.number with
  | none => w.meet l
  | some c =>
      let fresh := l.written.drop c.seen
      let w := { w with peer := w.peer.onContact l.number fun c =>
        { c with seen := l.written.length, up := c.up && l.live } }
      if c.reads then fresh.foldl (fun w f => w.see c f) w else w

def react (w : Encounter) : Encounter := w.session.links.foldl attend w

end Encounter

end MarketWire.Stream
