import MarketWire.Text.Quoted

namespace MarketWire

structure Credentials where
  apiKey : String
  secretKey : String
  passphrase : String
  deriving DecidableEq, Repr

namespace Credentials

def visibleKey : Nat := 4

def mask : String := "***"

def redactedKey (c : Credentials) : String :=
  let key := c.apiKey.toList
  String.ofList (key.take (min visibleKey (key.length / 2))) ++ mask

def describe (c : Credentials) : String :=
  "Credentials \x7b api_key: " ++ Text.Quoted.quote c.redactedKey
    ++ ", secret_key: " ++ Text.Quoted.quote mask
    ++ ", passphrase: " ++ Text.Quoted.quote mask ++ " \x7d"

end Credentials

end MarketWire
