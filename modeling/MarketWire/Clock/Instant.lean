import MarketWire.Clock.Calendar
import MarketWire.Number.Power

namespace MarketWire.Clock

structure Instant where
  nanos : Int
  deriving DecidableEq, Repr

def nanosPerSecond : Int := 1000000000

def nanosPerMilli : Int := 1000000

namespace Instant

def inRange (i : Instant) : Bool :=
  -8334601228800 * nanosPerSecond ≤ i.nanos && i.nanos < 8210266876800 * nanosPerSecond

def ofClock? (seconds : Int) (nanos : Nat) : Option Instant :=
  let i : Instant := ⟨seconds * nanosPerSecond + nanos⟩
  if 0 ≤ i.nanos ∧ i.inRange then some i else none

def ofMillis (millis : Int) : Instant := ⟨millis * nanosPerMilli⟩

def shift? (i : Instant) (millis : Int) : Option Instant :=
  let j : Instant := ⟨i.nanos + millis * nanosPerMilli⟩
  if -(Number.twoTo 63 : Int) < millis ∧ j.inRange then some j else none

def seconds (i : Instant) : Int := i.nanos / nanosPerSecond

def millis (i : Instant) : Int := i.nanos / nanosPerMilli

def date (i : Instant) : Date := Date.ofDays (i.seconds / 86400)

end Instant

def padded (width n : Nat) : List Char :=
  let digits := Nat.toDigits 10 n
  List.replicate (width - digits.length) '0' ++ digits

def yearText (year : Int) : List Char :=
  if 0 ≤ year ∧ year ≤ 9999 then padded 4 year.toNat
  else if year < 0 then '-' :: padded 4 year.natAbs
  else '+' :: padded 4 year.natAbs

def Instant.iso (i : Instant) : String :=
  let d := i.date
  let t := (i.seconds % 86400).toNat
  String.ofList (yearText d.year ++ '-' :: padded 2 d.month ++ '-' :: padded 2 d.day
    ++ 'T' :: padded 2 (t / 3600) ++ ':' :: padded 2 (t / 60 % 60) ++ ':' :: padded 2 (t % 60)
    ++ '.' :: padded 3 (i.millis % 1000).toNat ++ ['Z'])

end MarketWire.Clock
