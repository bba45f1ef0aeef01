namespace MarketWire.Stream

inductive Phase where
  | disconnected
  | connecting
  | authenticating
  | ready
  | closing
  | closed
  deriving DecidableEq, Repr

namespace Phase

def all : List Phase := [disconnected, connecting, authenticating, ready, closing, closed]

def ofNumber (n : Nat) : Phase := all[n]?.getD disconnected

def describe : Phase → String
  | disconnected => "Disconnected"
  | connecting => "Connecting"
  | authenticating => "Authenticating"
  | ready => "Ready"
  | closing => "Closing"
  | closed => "Closed"

end Phase

end MarketWire.Stream
