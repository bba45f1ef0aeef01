import MarketWire.Credentials

namespace MarketWire.Stream

inductive Access where
  | marketData
  | account (c : Credentials)
  deriving DecidableEq, Repr

namespace Access

def isPrivate : Access → Bool
  | marketData => false
  | account _ => true

def describe : Access → String
  | marketData => "Public"
  | account c => "Private(" ++ c.describe ++ ")"

def ofCredentials : Option Credentials → Access
  | none => marketData
  | some c => account c

end Access

end MarketWire.Stream
