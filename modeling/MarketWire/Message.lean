import MarketWire.Channel.Subscription
import MarketWire.Json.Fields
import MarketWire.Json.Writer

namespace MarketWire

open Channel (Subscription)

namespace Message

inductive Kind where
  | subscribe
  | unsubscribe
  | error
  | login
  | notice
  | connectionCount
  | parseError
  | other (name : String)
  deriving DecidableEq, Repr

def Kind.ofName (name : String) : Kind :=
  if name = "subscribe" then .subscribe
  else if name = "unsubscribe" then .unsubscribe
  else if name = "error" then .error
  else if name = "login" then .login
  else if name = "notice" then .notice
  else if name = "channel-conn-count" then .connectionCount
  else .other name

structure Event where
  kind : Kind
  arg : Option Subscription
  code : Option String
  msg : Option String
  connId : Option String
  raw : String
  deriving DecidableEq

def successCode : String := "0"

def Event.isSuccess (e : Event) : Bool :=
  match e.kind with
  | .error => false
  | .parseError => false
  | _ =>
      match e.code with
      | none => true
      | some code => code == successCode

structure Data where
  arg : Subscription
  action : Option String
  records : List Json
  deriving DecidableEq

inductive Fault where
  | json
  | noChannel
  | neither
  deriving DecidableEq, Repr

def Fault.text : Fault → String
  | .json => Json.complaint
  | .noChannel => "data frame \x60arg\x60 has no channel"
  | .neither => "frame has neither \x60event\x60 nor \x60arg\x60/\x60data\x60"

end Message

inductive Message where
  | event (e : Message.Event)
  | data (d : Message.Data)
  deriving DecidableEq

namespace Message

def channel : Message → Option String
  | .event e => e.arg.map (·.channel)
  | .data d => some d.arg.channel

def instId : Message → Option String
  | .event e => e.arg.bind (·.instId)
  | .data d => d.arg.instId

def isData : Message → Bool
  | .event _ => false
  | .data _ => true

def unreadable (raw : String) (fault : Fault) : Message :=
  .event ⟨.parseError, none, none, some fault.text, none, raw⟩

structure Frame where
  event : Option String
  arg : Option Json
  data : Option Json
  code : Option Json
  msg : Option String
  connId : Option String
  action : Option String
  deriving DecidableEq

def Frame.names : List String := ["event", "arg", "data", "code", "msg", "connId", "action"]

open Json in
def Frame.ofFields? : Fields → Option Frame
  | [event, arg, data, code, msg, connId, action] =>
      (optionalField Draft.str? event).bind fun event =>
      (optionalField Draft.inner? arg).bind fun arg =>
      (optionalField Draft.inner? data).bind fun data =>
      (optionalField Draft.inner? code).bind fun code =>
      (optionalField Draft.str? msg).bind fun msg =>
      (optionalField Draft.str? connId).bind fun connId =>
      (optionalField Draft.str? action).map fun action =>
        ⟨event, arg, data, code, msg, connId, action⟩
  | _ => none

def Frame.read? (text : String) : Option Frame :=
  (Json.Draft.read? text.toList).bind fun d => (d.fields? Frame.names).bind Frame.ofFields?

def codeText : Json → String
  | .str s => s
  | v => v.text

def recordsOf : Json → List Json
  | .arr items => items
  | .null => []
  | v => [v]

def ofFrame (raw : String) (f : Frame) : Except Fault Message :=
  match f.event with
  | some name =>
      .ok (.event ⟨Kind.ofName name, f.arg.bind Subscription.ofArg?, f.code.map codeText, f.msg,
        f.connId, raw⟩)
  | none =>
      match f.arg, f.data with
      | some arg, some content =>
          match Subscription.ofArg? arg with
          | some s => .ok (.data ⟨s, f.action, recordsOf content⟩)
          | none => .error .noChannel
      | _, _ => .error .neither

def decode (text : String) : Except Fault Message :=
  match Frame.read? text with
  | some f => ofFrame text f
  | none => .error .json

end Message

end MarketWire
