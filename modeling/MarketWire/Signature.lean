import MarketWire.Credentials
import MarketWire.Digest.Base64
import MarketWire.Digest.Hmac
import MarketWire.Json.Fields
import MarketWire.Json.Writer
import MarketWire.Text.UpperCase
import MarketWire.Text.Utf8

namespace MarketWire.Signature

def signedText (timestamp method path body : String) : String :=
  timestamp ++ Text.upperCase method ++ path ++ body

def signMessage (secret message : String) : String :=
  Digest.Base64.encode (Digest.Hmac.mac (Text.Utf8.encode secret) (Text.Utf8.encode message))

def sign (secret timestamp method path body : String) : String :=
  signMessage secret (signedText timestamp method path body)

def keyHeader : String := "OK-ACCESS-KEY"

def signHeader : String := "OK-ACCESS-SIGN"

def timestampHeader : String := "OK-ACCESS-TIMESTAMP"

def passphraseHeader : String := "OK-ACCESS-PASSPHRASE"

def simulatedHeader : String := "x-simulated-trading"

def simulatedHeaders (simulated : Bool) : List (String × String) :=
  if simulated then [(simulatedHeader, "1")] else []

def headers (c : Credentials) (timestamp method path body : String) (simulated : Bool) :
    List (String × String) :=
  [(keyHeader, c.apiKey),
    (signHeader, sign c.secretKey timestamp method path body),
    (timestampHeader, timestamp),
    (passphraseHeader, c.passphrase)] ++ simulatedHeaders simulated

def loginMethod : String := "GET"

def loginPath : String := "/users/self/verify"

structure Login where
  apiKey : String
  passphrase : String
  timestamp : String
  signature : String
  deriving DecidableEq, Repr

namespace Login

def fieldNames : List String := ["apiKey", "passphrase", "timestamp", "sign"]

def signed (c : Credentials) (seconds : Int) : Login :=
  let timestamp := String.ofList (Json.writeInt seconds)
  ⟨c.apiKey, c.passphrase, timestamp, sign c.secretKey timestamp loginMethod loginPath ""⟩

def toJson (l : Login) : List (String × Json) :=
  [("apiKey", .str l.apiKey), ("passphrase", .str l.passphrase), ("timestamp", .str l.timestamp),
    ("sign", .str l.signature)]

def read? (text : String) : Option Login :=
  (Json.Draft.read? text.toList).bind fun d =>
    match d.fields? fieldNames with
    | some [some a, some p, some t, some s] =>
        match a.str?, p.str?, t.str?, s.str? with
        | some a, some p, some t, some s => some ⟨a, p, t, s⟩
        | _, _, _, _ => none
    | _ => none

def describe (l : Login) : String :=
  "WsLoginArgs \x7b timestamp: " ++ Text.Quoted.quote l.timestamp ++ ", .. \x7d"

end Login

end MarketWire.Signature
