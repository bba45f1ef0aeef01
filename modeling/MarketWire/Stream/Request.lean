import MarketWire.Channel.Subscription
import MarketWire.Signature

namespace MarketWire.Stream

open Channel (Subscription)

inductive Request where
  | subscribe (subs : List Subscription)
  | unsubscribe (subs : List Subscription)
  | login (l : Signature.Login)
  deriving DecidableEq

namespace Request

def operation : Request → String
  | subscribe _ => "subscribe"
  | unsubscribe _ => "unsubscribe"
  | login _ => "login"

def args : Request → List Json
  | subscribe subs => subs.map Subscription.toJson
  | unsubscribe subs => subs.map Subscription.toJson
  | login l => [.obj l.toJson]

def toJson (r : Request) : Json := .obj [("op", .str r.operation), ("args", .arr r.args)]

def text (r : Request) : String := r.toJson.text

end Request

end MarketWire.Stream
