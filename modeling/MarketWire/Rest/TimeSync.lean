import MarketWire.Clock.Instant
import MarketWire.Rest.Client

namespace MarketWire.Rest

structure TimeSync where
  measured : Option Int
  deriving DecidableEq, Repr

namespace TimeSync

def unsynced : TimeSync := ⟨none⟩

def isSynced (t : TimeSync) : Bool := t.measured.isSome

def offset (t : TimeSync) : Int := t.measured.getD 0

-- Sums that leave the word come round, as they do where overflow is not trapped.
def estimate (sent received server : Int) : Int :=
  Number.wrapped (server - Number.wrapped (sent + (Number.wrapped (received - sent)).tdiv 2))

def offsetOf (sent received : Int) (time : ServerTime) : Except RestError Int :=
  match time.millis? with
  | some server => .ok (estimate sent received server)
  | none => .error (.undecodable ("invalid server timestamp: " ++ time.ts))

def record (t : TimeSync) : Except RestError Int → TimeSync
  | .ok offset => ⟨some offset⟩
  | .error _ => t

def sync (t : TimeSync) (c : Client) (sent received : Int) (w : Client.Surroundings) :
    Except RestError Int × TimeSync × Client.Surroundings :=
  let (reply, w) := c.serverTime w
  let measured := reply.bind (offsetOf sent received)
  (measured, t.record measured, w)

def now? (t : TimeSync) (local? : Option Clock.Instant) : Option Clock.Instant :=
  local?.bind fun i => i.shift? t.offset

end TimeSync

end MarketWire.Rest
