import MarketWire.Signature

namespace MarketWire

structure Endpoint where
  restUrl : String
  publicUrl : String
  privateUrl : String
  simulated : Bool
  deriving DecidableEq, Repr

namespace Endpoint

def defaultRestUrl : String := "https://www.okx.com"

def live : Endpoint :=
  ⟨defaultRestUrl, "wss://ws.okx.com:8443/ws/v5/public", "wss://ws.okx.com:8443/ws/v5/private",
    false⟩

def simulation : Endpoint :=
  ⟨defaultRestUrl, "wss://wspap.okx.com:8443/ws/v5/public?brokerId=9999",
    "wss://wspap.okx.com:8443/ws/v5/private?brokerId=9999", true⟩

def trimSlashes (url : String) : String :=
  String.ofList ((url.toList.reverse.dropWhile (· == '/')).reverse)

def withRestUrl (e : Endpoint) (url : String) : Endpoint := { e with restUrl := trimSlashes url }

def withPublicUrl (e : Endpoint) (url : String) : Endpoint := { e with publicUrl := url }

def withPrivateUrl (e : Endpoint) (url : String) : Endpoint := { e with privateUrl := url }

def headers (e : Endpoint) : List (String × String) := Signature.simulatedHeaders e.simulated

def describeBool (b : Bool) : String := if b then "true" else "false"

def describe (e : Endpoint) : String :=
  "Endpoint \x7b rest_url: " ++ Text.Quoted.quote e.restUrl
    ++ ", ws_public_url: " ++ Text.Quoted.quote e.publicUrl
    ++ ", ws_private_url: " ++ Text.Quoted.quote e.privateUrl
    ++ ", simulated: " ++ describeBool e.simulated ++ " \x7d"

end Endpoint

end MarketWire
