import MarketWire.Channel.Subscription

namespace MarketWire

open Channel (Subscription)

namespace Registry

structure Entry where
  arrival : Nat
  confirmed : Bool
  deriving DecidableEq, Repr

end Registry

structure Registry where
  entries : List (Subscription × Registry.Entry)
  nextArrival : Nat
  deriving DecidableEq

namespace Registry

def empty : Registry := ⟨[], 0⟩

def find? (r : Registry) (s : Subscription) : Option Entry := r.entries.lookup s

def contains (r : Registry) (s : Subscription) : Bool := (r.find? s).isSome

def add (r : Registry) (s : Subscription) : Registry × Bool :=
  if r.contains s then (r, false)
  else (⟨(s, ⟨r.nextArrival, false⟩) :: r.entries, r.nextArrival + 1⟩, true)

def remove (r : Registry) (s : Subscription) : Registry × Bool :=
  ({ r with entries := r.entries.filter fun e => e.1 != s }, r.contains s)

def confirm (r : Registry) (s : Subscription) : Registry × Bool :=
  ({ r with entries := r.entries.map fun e =>
      if e.1 = s then (e.1, { e.2 with confirmed := true }) else e }, r.contains s)

def isConfirmed (r : Registry) (s : Subscription) : Bool :=
  match r.find? s with
  | some e => e.confirmed
  | none => false

def resetConfirmations (r : Registry) : Registry :=
  { r with entries := r.entries.map fun e => (e.1, { e.2 with confirmed := false }) }

def clear (r : Registry) : Registry := { r with entries := [] }

def count (r : Registry) : Nat := r.entries.length

def isEmpty (r : Registry) : Bool := r.entries.isEmpty

def place (e : Subscription × Entry) : List (Subscription × Entry) → List (Subscription × Entry)
  | [] => [e]
  | x :: xs => if e.2.arrival < x.2.arrival then e :: x :: xs else x :: place e xs

def byArrival (entries : List (Subscription × Entry)) : List (Subscription × Entry) :=
  entries.foldl (fun sorted e => place e sorted) []

def toList (r : Registry) : List (Subscription × Bool) :=
  (byArrival r.entries).map fun e => (e.1, e.2.confirmed)

def all (r : Registry) : List Subscription := (byArrival r.entries).map (·.1)

end Registry

end MarketWire
