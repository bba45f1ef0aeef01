import MarketWire.Message
import MarketWire.Registry

namespace MarketWire

namespace Router

def ping : String := "ping"

def pong : String := "pong"

inductive Routed where
  | pong
  | consumed
  | deliver (m : Message)
  deriving DecidableEq

def acknowledge (forward : Bool) (e : Message.Event) : Routed :=
  if forward then .deliver (.event e) else .consumed

def routeEvent (forward : Bool) (r : Registry) (e : Message.Event) : Registry × Routed :=
  match e.kind with
  | .subscribe =>
      match e.arg with
      | some s => ((r.confirm s).1, acknowledge forward e)
      | none => (r, acknowledge forward e)
  | .unsubscribe => (r, acknowledge forward e)
  | _ => (r, .deliver (.event e))

def route (forward : Bool) (r : Registry) (text : String) : Registry × Routed :=
  if text = pong then (r, .pong)
  else
    match Message.decode text with
    | .error fault => (r, .deliver (Message.unreadable text fault))
    | .ok (.event e) => routeEvent forward r e
    | .ok (.data d) => (r, .deliver (.data d))

end Router

end MarketWire
