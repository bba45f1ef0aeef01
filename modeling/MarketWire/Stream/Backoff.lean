import MarketWire.Clock.Span
import MarketWire.Number.Shortest

namespace MarketWire.Stream

structure Backoff where
  maxAttempts : Option Nat
  initialDelay : Nat
  maxDelay : Nat
  multiplier : Float
  jitter : Float

namespace Backoff

open Clock

def standard : Backoff := ⟨none, Span.ofSeconds 1, Span.ofSeconds 60, 2.0, 0.25⟩

def fixed (delay : Nat) (maxAttempts : Option Nat) : Backoff := ⟨maxAttempts, delay, delay, 1.0, 0.0⟩

def allows (b : Backoff) (attempt : Nat) : Bool :=
  match b.maxAttempts with
  | none => true
  | some max => attempt < max

def atLeast (x y : Float) : Float := if x ≥ y then x else y

def atMost (x y : Float) : Float := if x ≤ y then x else y

def powerFrom (product square : Float) (n : Nat) : Float :=
  let product := if n % 2 = 1 then product * square else product
  if n < 2 then product else powerFrom product (square * square) (n / 2)
  termination_by n
  decreasing_by omega

def power (x : Float) (n : Nat) : Float := powerFrom 1.0 x n

def growthLimit : Nat := 32

def unitInterval (x : Float) : Float := if x < 0.0 then 0.0 else if x > 1.0 then 1.0 else x

def delayMillis (b : Backoff) (attempt : Nat) (draw : Float) : Nat :=
  let start := Float.ofNat (Span.millis b.initialDelay)
  let limit := Float.ofNat (Span.millis b.maxDelay)
  let grown := start * power (atLeast b.multiplier 1.0) (min attempt growthLimit)
  let capped := atLeast (atMost grown limit) 0.0
  let factor := 1.0 - unitInterval b.jitter * draw
  max (capped * factor).toUInt64.toNat 1

def delay (b : Backoff) (attempt : Nat) (draw : Float) : Nat :=
  Span.ofMillis (b.delayMillis attempt draw)

def draws : List Float := (List.range 50).map fun i => Float.ofNat i / 50.0

def staysWithin (b : Backoff) (attempt low high : Nat) : Bool :=
  draws.all fun draw =>
    let d := b.delayMillis attempt draw
    low ≤ d && d ≤ high

def realLayout : Number.Layout := ⟨-4, 15, false⟩

def describeFloat (x : Float) : String :=
  match Number.Binary64.ofFloat? x with
  | some d => String.ofList (realLayout.render d)
  | none => if x > 0.0 then "inf" else if x < 0.0 then "-inf" else "NaN"

def describeCount : Option Nat → String
  | none => "None"
  | some n => "Some(" ++ String.ofList (Number.digitsOf n) ++ ")"

def describe (b : Backoff) : String :=
  "ReconnectPolicy \x7b max_attempts: " ++ describeCount b.maxAttempts
    ++ ", initial_delay: " ++ Span.describe b.initialDelay
    ++ ", max_delay: " ++ Span.describe b.maxDelay
    ++ ", multiplier: " ++ describeFloat b.multiplier
    ++ ", jitter: " ++ describeFloat b.jitter ++ " \x7d"

end Backoff

end MarketWire.Stream
