namespace MarketWire.Stream

structure Turnstile where
  waiting : List Nat
  permit : Bool
  deriving DecidableEq, Repr

namespace Turnstile

def empty : Turnstile := ⟨[], false⟩

def enter (t : Turnstile) (call : Nat) : Turnstile × Bool :=
  if t.permit then ({ t with permit := false }, true)
  else ({ t with waiting := t.waiting ++ [call] }, false)

def signal (t : Turnstile) : Turnstile × Option Nat :=
  match t.waiting with
  | call :: rest => ({ t with waiting := rest }, some call)
  | [] => ({ t with permit := true }, none)

def signalAll (t : Turnstile) : Turnstile × List Nat := ({ t with waiting := [] }, t.waiting)

def leave (t : Turnstile) (call : Nat) : Turnstile := { t with waiting := t.waiting.erase call }

end Turnstile

end MarketWire.Stream
