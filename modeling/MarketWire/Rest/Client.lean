import MarketWire.Clock.Span
import MarketWire.Endpoint
import MarketWire.Rest.Exchange
import MarketWire.Signature

namespace MarketWire.Rest

structure Retry where
  maxRetries : Nat
  baseDelay : Nat
  maxDelay : Nat
  deriving DecidableEq, Repr

namespace Retry

def standard : Retry := ⟨0, 100, 10000⟩

def describe (r : Retry) : String :=
  let count (n : Nat) : String := String.ofList (Number.digitsOf n)
  "RetryConfig \x7b max_retries: " ++ count r.maxRetries
    ++ ", base_delay_ms: " ++ count r.baseDelay
    ++ ", max_delay_ms: " ++ count r.maxDelay ++ " \x7d"

end Retry

structure Options where
  baseUrl : String
  simulated : Bool
  timeout : Nat
  headers : List (String × String)
  retry : Retry
  credentials : Option Credentials
  deriving DecidableEq, Repr

structure Client where
  baseUrl : String
  simulated : Bool
  defaults : List (String × String)
  retry : Retry
  credentials : Option Credentials
  deriving DecidableEq, Repr

structure Timestamps where
  texts : List String
  drawn : Nat
  deriving DecidableEq, Repr

def Timestamps.draw (t : Timestamps) : String × Timestamps :=
  (t.texts[t.drawn]?.getD (t.texts.getLast?.getD ""), { t with drawn := t.drawn + 1 })

namespace Options

def defaultTimeout : Nat := Clock.Span.ofSeconds 30

def ofEndpoint (e : Endpoint) : Options :=
  ⟨Endpoint.trimSlashes e.restUrl, e.simulated, defaultTimeout, [], Retry.standard, none⟩

def describeCredentials : Option Credentials → String
  | none => "None"
  | some c => "Some(" ++ c.describe ++ ")"

def describe (o : Options) : String :=
  "OkxApiClientBuilder \x7b base_url: " ++ Text.Quoted.quote o.baseUrl
    ++ ", simulated: " ++ Endpoint.describeBool o.simulated
    ++ ", timeout: " ++ Clock.Span.describe o.timeout
    ++ ", retry_config: " ++ o.retry.describe
    ++ ", credentials: " ++ describeCredentials o.credentials ++ ", .. \x7d"

def jsonHeaders : List (String × String) :=
  [("content-type", "application/json"), ("accept", "application/json")]

def addHeader (defaults : List (String × String)) (h : String × String) :
    Except RestError (List (String × String)) :=
  if !Header.isName h.1 then
    .error (.invalidParameter ("Invalid header name '" ++ h.1 ++ "': invalid HTTP header name"))
  else if !Header.isValue h.2 then
    .error (.invalidParameter
      ("Invalid header value for '" ++ h.1 ++ "': failed to parse header value"))
  else .ok (Header.set defaults h.1 h.2)

def build (o : Options) : Except RestError Client :=
  (o.headers.foldlM addHeader jsonHeaders).map fun defaults =>
    ⟨o.baseUrl, o.simulated, defaults, o.retry, o.credentials⟩

end Options

structure Call where
  method : Method
  path : String
  body : String
  signer : Option Credentials
  deriving DecidableEq, Repr

namespace Client

def describe (c : Client) : String :=
  "OkxApiClient \x7b base_url: " ++ Text.Quoted.quote c.baseUrl
    ++ ", simulated: " ++ Endpoint.describeBool c.simulated
    ++ ", credentials: " ++ Options.describeCredentials c.credentials ++ ", .. \x7d"

def requestPath (path : String) (query : List (String × String)) : Except RestError String :=
  if path.toList.head? ≠ some '/' then
    .error (.invalidParameter ("path must start with '/': " ++ path))
  else if query.isEmpty then .ok path
  else .ok (path ++ "?" ++ String.ofList (Text.Percent.formPairs query))

def requireCredentials (c : Client) : Except RestError Credentials :=
  match c.credentials with
  | some k => .ok k
  | none => .error (.unauthorized "credentials required for private endpoint")

def publicGet (path : String) (query : List (String × String)) : Except RestError Call :=
  (requestPath path query).map fun p => ⟨.get, p, "", none⟩

def privateGet (c : Client) (path : String) (query : List (String × String)) :
    Except RestError Call :=
  c.requireCredentials.bind fun k => (requestPath path query).map fun p => ⟨.get, p, "", some k⟩

def privatePost (c : Client) (path : String) (body : Json) : Except RestError Call :=
  c.requireCredentials.map fun k => ⟨.post, path, body.text, some k⟩

def serverTimePath : String := "/api/v5/public/time"

def serverTimeCall : Call := ⟨.get, serverTimePath, "", none⟩

def ownHeaders (c : Client) (call : Call) (timestamp : String) : List (String × String) :=
  let own :=
    match call.signer with
    | some k => Signature.headers k timestamp call.method.name call.path call.body c.simulated
    | none => Signature.simulatedHeaders c.simulated
  own.map fun h => (Header.lowerName h.1, h.2)

def request (c : Client) (call : Call) (timestamp : String) : HttpRequest :=
  ⟨call.method, c.baseUrl ++ call.path,
    Header.withDefaults c.defaults (c.ownHeaders call timestamp), call.body⟩

structure Surroundings where
  timestamps : Timestamps
  server : Server
  deriving DecidableEq, Repr

def attempt (c : Client) (call : Call) (w : Surroundings) : Outcome × Surroundings :=
  let (timestamp, timestamps) :=
    match call.signer with
    | some _ => w.timestamps.draw
    | none => ("", w.timestamps)
  let (outcome, server) := w.server.exchange (c.request call timestamp)
  (outcome, ⟨timestamps, server⟩)

def attempts (c : Client) (call : Call) : Nat → Surroundings → Outcome × Surroundings
  | 0, w => c.attempt call w
  | n + 1, w =>
      let (outcome, w) := c.attempt call w
      if outcome.isRetryable then c.attempts call n w else (outcome, w)

def perform {α : Type} (c : Client) (decode : Json → Option α) (call : Except RestError Call)
    (w : Surroundings) : Except RestError α × Surroundings :=
  match call with
  | .error e => (.error e, w)
  | .ok call =>
      let (outcome, w) := c.attempts call c.retry.maxRetries w
      (outcome.result decode, w)

def firstTime : List ServerTime → Except RestError ServerTime
  | t :: _ => .ok t
  | [] => .error (.undecodable "empty server time response")

def serverTime (c : Client) (w : Surroundings) : Except RestError ServerTime × Surroundings :=
  let (result, w) := c.perform serverTimes? (.ok serverTimeCall) w
  (result.bind firstTime, w)

end Client

end MarketWire.Rest
