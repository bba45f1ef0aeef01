import MarketWire.Rest.Envelope
import MarketWire.Rest.Error
import MarketWire.Rest.Status

namespace MarketWire.Rest

inductive Outcome where
  | unsent
  | noConnection
  | timedOut
  | broken
  | response (status : Nat) (body : Option String)
  deriving DecidableEq, Repr

namespace Outcome

def isRetryable : Outcome → Bool
  | noConnection => true
  | timedOut => true
  | response status _ => Status.isServerError status || status == Status.tooManyRequests
  | _ => false

def unwrap {α : Type} (decode : Json → Option α) (body : String) : Except RestError α :=
  match Envelope.read? body with
  | none => .error (.undecodable ("Failed to deserialize response: " ++ Json.complaint))
  | some e =>
      if e.isSuccess then
        match decode e.data with
        | some a => .ok a
        | none => .error (.undecodable ("Failed to deserialize data: " ++ Json.complaint))
      else .error (.refusedByApi e.code e.msg)

def explanation (text : String) : String :=
  match Envelope.read? text with
  | some e => if e.msg.isEmpty then text else e.msg
  | none => text

def statusError (status : Nat) (text : String) : RestError :=
  if status = Status.unauthorized then .unauthorized (explanation text)
  else if status = Status.tooManyRequests then .rateLimited (explanation text)
  else if Status.isServerError status then .serverError (explanation text)
  else
    match Envelope.read? text with
    | some e =>
        if e.isSuccess then .unexpectedStatus status (explanation text)
        else .refusedByApi e.code e.msg
    | none => .unexpectedStatus status (explanation text)

-- The program writes the transport's reason after these words.
def unreadableBody (status : Nat) : String :=
  "HTTP " ++ Status.describe status ++ " (body unreadable)"

def result {α : Type} (decode : Json → Option α) : Outcome → Except RestError α
  | response status body =>
      if Status.isSuccess status then
        match body with
        | some text => unwrap decode text
        | none => .error .http
      else .error (statusError status (body.getD (unreadableBody status)))
  | _ => .error .http

end Outcome

end MarketWire.Rest
