import MarketWire.Stream.Mailbox
import MarketWire.Stream.Turnstile

namespace MarketWire.Stream

namespace Handover

inductive Request (α : Type) where
  | put (x : α)
  | take
  | takeNow
  | finish
  | reopen
  | close
  deriving DecidableEq, Repr

inductive Answer (α : Type) where
  | none
  | done (accepted : Bool)
  | got (x : Option α)
  deriving DecidableEq, Repr

inductive Side where
  | readable
  | writable
  deriving DecidableEq, Repr

inductive Ticket where
  | queued
  | called
  | spent
  deriving DecidableEq, Repr

inductive Stage (α : Type) where
  | entering
  | checking (t : Ticket)
  | parked (t : Ticket)
  | signalling (side : Side) (a : Answer α) (t : Ticket)
  | leaving (a : Answer α) (t : Ticket)
  | rousing (sides : List Side) (a : Answer α)
  deriving DecidableEq, Repr

structure Call (α : Type) where
  id : Nat
  request : Request α
  stage : Stage α
  deriving DecidableEq, Repr

def Call.isParked {α : Type} (c : Call α) : Bool :=
  match c.stage with
  | .parked .queued => true
  | _ => false

end Handover

structure Handover (α : Type) where
  mailbox : Mailbox α
  readable : Turnstile
  writable : Turnstile
  calls : List (Handover.Call α)
  answers : List (Nat × Handover.Answer α)
  deriving DecidableEq, Repr

namespace Handover

variable {α : Type}

def empty (capacity : Nat) (overflow : Overflow) : Handover α :=
  ⟨Mailbox.empty capacity overflow, Turnstile.empty, Turnstile.empty, [], []⟩

def turnstile (h : Handover α) : Side → Turnstile
  | .readable => h.readable
  | .writable => h.writable

def setTurnstile (h : Handover α) (side : Side) (t : Turnstile) : Handover α :=
  match side with
  | .readable => { h with readable := t }
  | .writable => { h with writable := t }

def call? (h : Handover α) (id : Nat) : Option (Call α) := h.calls.find? fun c => c.id == id

def setStage (h : Handover α) (id : Nat) (stage : Stage α) : Handover α :=
  { h with calls := h.calls.map fun c => if c.id = id then { c with stage } else c }

def withTicket (t : Ticket) : Stage α → Stage α
  | .checking _ => .checking t
  | .parked _ => .parked t
  | .signalling side a _ => .signalling side a t
  | .leaving a _ => .leaving a t
  | stage => stage

def setTicket (h : Handover α) (id : Nat) (t : Ticket) : Handover α :=
  { h with calls := h.calls.map fun c =>
      if c.id = id then { c with stage := withTicket t c.stage } else c }

def conclude (h : Handover α) (id : Nat) (a : Answer α) : Handover α :=
  { h with calls := h.calls.filter fun c => c.id != id, answers := h.answers ++ [(id, a)] }

def signal (h : Handover α) (side : Side) : Handover α :=
  match (h.turnstile side).signal with
  | (t, some id) => (h.setTurnstile side t).setTicket id .called
  | (t, none) => h.setTurnstile side t

def signalAll (h : Handover α) (side : Side) : Handover α :=
  let (t, ids) := (h.turnstile side).signalAll
  ids.foldl (fun h id => h.setTicket id .spent) (h.setTurnstile side t)

def release (h : Handover α) (side : Side) (id : Nat) : Ticket → Handover α
  | .queued => h.setTurnstile side ((h.turnstile side).leave id)
  | .called => h.signal side
  | .spent => h

def Request.side : Request α → Side
  | .put _ => .writable
  | _ => .readable

def register (h : Handover α) (side : Side) (id : Nat) : Handover α :=
  let (t, permitted) := (h.turnstile side).enter id
  (h.setTurnstile side t).setStage id (.checking (if permitted then .spent else .queued))

def enter (h : Handover α) (c : Call α) : Handover α :=
  match c.request with
  | .takeNow =>
      match h.mailbox.takeNow with
      | (some x, q) =>
          { h with mailbox := q }.setStage c.id (.signalling .writable (.got (some x)) .spent)
      | (none, _) => h.conclude c.id (.got none)
  | .finish =>
      { h with mailbox := h.mailbox.finish }.setStage c.id (.rousing [.readable, .writable] .none)
  | .close =>
      { h with mailbox := h.mailbox.close }.setStage c.id (.rousing [.readable, .writable] .none)
  | .reopen =>
      let (q, done) := h.mailbox.reopen
      { h with mailbox := q }.conclude c.id (.done done)
  | r => h.register r.side c.id

def park (h : Handover α) (id : Nat) : Ticket → Handover α
  | .queued => h.setStage id (.parked .queued)
  | _ => h.setStage id .entering

def check (h : Handover α) (c : Call α) (t : Ticket) : Handover α :=
  match c.request with
  | .put x =>
      match h.mailbox.offer x with
      | .taken q => { h with mailbox := q }.setStage c.id (.signalling .readable (.done true) t)
      | .refused => h.setStage c.id (.leaving (.done false) t)
      | .wait => h.park c.id t
  | _ =>
      match h.mailbox.take with
      | .item x q =>
          { h with mailbox := q }.setStage c.id (.signalling .writable (.got (some x)) t)
      | .ended => h.setStage c.id (.leaving (.got none) t)
      | .wait => h.park c.id t

def advance (h : Handover α) (c : Call α) : Option (Handover α) :=
  match c.stage with
  | .entering => some (h.enter c)
  | .checking t => some (h.check c t)
  | .parked .queued => none
  | .parked _ => some (h.setStage c.id .entering)
  | .signalling side a t => some ((h.setStage c.id (.leaving a t)).signal side)
  | .leaving a t => some ((h.release c.request.side c.id t).conclude c.id a)
  | .rousing [] a => some (h.conclude c.id a)
  | .rousing (side :: sides) a => some ((h.signalAll side).setStage c.id (.rousing sides a))

def start (h : Handover α) (id : Nat) (r : Request α) : Handover α :=
  { h with calls := h.calls ++ [⟨id, r, .entering⟩] }

def cancel (h : Handover α) (id : Nat) : Handover α × Bool :=
  match h.call? id with
  | some c =>
      match c.stage with
      | .parked t =>
          ({ h with calls := h.calls.filter fun c => c.id != id }.release c.request.side id t, true)
      | _ => (h, false)
  | none => (h, false)

def runCall (h : Handover α) (id : Nat) : Nat → Handover α
  | 0 => h
  | n + 1 =>
      match (h.call? id).bind h.advance with
      | some h => runCall h id n
      | none => h

def callSteps : Nat := 16

def sweep (h : Handover α) : Handover α :=
  h.calls.foldl (fun h c => h.runCall c.id callSteps) h

def settle (h : Handover α) : Nat → Handover α
  | 0 => h
  | n + 1 => if h.calls.all Call.isParked then h else settle h.sweep n

def perform (h : Handover α) (id : Nat) (r : Request α) : Handover α :=
  let h := (h.start id r).runCall id callSteps
  h.settle (h.calls.length + 2)

end Handover

end MarketWire.Stream
