import MarketWire.Rest.Framing
import MarketWire.Rest.Outcome
import MarketWire.Rest.Url

namespace MarketWire.Rest

inductive Method where
  | get
  | post
  deriving DecidableEq, Repr

def Method.name : Method → String
  | get => "GET"
  | post => "POST"

structure HttpRequest where
  method : Method
  url : String
  headers : List (String × String)
  body : String
  deriving DecidableEq, Repr

structure Received where
  method : Method
  target : String
  headers : List (String × String)
  body : String
  deriving DecidableEq, Repr

inductive Reply where
  | answer (status : Nat) (body : List UInt8) (truncated : Bool)
  | drop
  | hang
  deriving DecidableEq, Repr

structure Server where
  site : Site
  listening : Bool
  replies : List Reply
  received : List Received
  deriving DecidableEq, Repr

namespace Server

def noReply : Reply := .answer 500 (Text.Utf8.encode "no response queued") false

def outcomeOf : Reply → Outcome
  | .answer status body truncated =>
      if !Status.isFinal status then .broken
      else if Status.isBodiless status then .response status (some "")
      else if truncated then .response status none
      else .response status (some (Text.Utf8.decode body))
  | .drop => .broken
  | .hang => .timedOut

def maxAddressLength : Nat := 65534

def isSendable (r : HttpRequest) (u : Url) : Bool :=
  u.text.length ≤ maxAddressLength
    && r.headers.all fun h => Header.isName h.1 && Header.isValue h.2

def answer (s : Server) (r : Received) : Outcome × Server :=
  (outcomeOf (s.replies.head?.getD noReply),
    { s with replies := s.replies.drop 1, received := s.received ++ [r] })

def receive (s : Server) (r : HttpRequest) (u : Url) : Outcome × Server :=
  let headers := Framing.sentHeaders r.headers (Text.Utf8.encode r.body)
  match Framing.received? headers (Text.Utf8.encode r.body) with
  | some body =>
      s.answer ⟨r.method, String.ofList u.target,
        headers.map fun h => (h.1, Header.received h.2), Text.Utf8.decode body⟩
  | none => (.timedOut, s)

def exchange (s : Server) (r : HttpRequest) : Outcome × Server :=
  match Url.parse? r.url with
  | none => (.unsent, s)
  | some u =>
      if !isSendable r u then (.unsent, s)
      else if s.listening ∧ u.site = s.site then
        s.receive r u
      else (.noConnection, s)

end Server

end MarketWire.Rest
