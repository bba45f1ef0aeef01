import MarketWire.Stream.Settings

namespace MarketWire.Stream

structure Mailbox (α : Type) where
  items : List α
  capacity : Nat
  overflow : Overflow
  finished : Bool
  closed : Bool
  dropped : Nat
  deriving DecidableEq, Repr

namespace Mailbox

variable {α : Type}

def empty (capacity : Nat) (overflow : Overflow) : Mailbox α :=
  ⟨[], max capacity 1, overflow, false, false, 0⟩

inductive Offered (α : Type) where
  | taken (q : Mailbox α)
  | refused
  | wait
  deriving DecidableEq, Repr

def makeRoom (q : Mailbox α) : Mailbox α :=
  if q.capacity ≤ q.items.length ∧ q.overflow = .dropOldest then
    { q with items := q.items.drop 1, dropped := q.dropped + 1 }
  else q

def offer (q : Mailbox α) (x : α) : Offered α :=
  if q.closed || q.finished then .refused
  else
    let q := q.makeRoom
    if q.items.length < q.capacity then .taken { q with items := q.items ++ [x] } else .wait

inductive Taken (α : Type) where
  | item (x : α) (q : Mailbox α)
  | ended
  | wait
  deriving DecidableEq, Repr

def take (q : Mailbox α) : Taken α :=
  if q.closed then .ended
  else
    match q.items with
    | x :: rest => .item x { q with items := rest }
    | [] => if q.finished then .ended else .wait

def takeNow (q : Mailbox α) : Option α × Mailbox α :=
  if q.closed then (none, q)
  else
    match q.items with
    | x :: rest => (some x, { q with items := rest })
    | [] => (none, q)

def finish (q : Mailbox α) : Mailbox α := { q with finished := true }

def reopen (q : Mailbox α) : Mailbox α × Bool :=
  if q.closed then (q, false) else ({ q with finished := false }, true)

def close (q : Mailbox α) : Mailbox α := { q with closed := true, items := [] }

def length (q : Mailbox α) : Nat := q.items.length

end Mailbox

end MarketWire.Stream
