import MarketWire.Json.Fields
import MarketWire.Number.Power

namespace MarketWire.Rest

structure Envelope where
  code : String
  msg : String
  data : Json
  deriving DecidableEq

namespace Envelope

open Json

def fieldNames : List String := ["code", "msg", "data"]

def successCode : String := "0"

def isSuccess (e : Envelope) : Bool := e.code == successCode

def ofFields? : Fields → Option Envelope
  | [some code, msg, data] =>
      (Draft.str? code).bind fun code =>
      (defaultField "" Draft.str? msg).bind fun msg =>
      (defaultField .null Draft.inner? data).map fun data => ⟨code, msg, data⟩
  | _ => none

def read? (text : String) : Option Envelope :=
  (Draft.read? text.toList).bind fun d => (d.fields? fieldNames).bind ofFields?

end Envelope

structure ServerTime where
  ts : String
  deriving DecidableEq, Repr

namespace ServerTime

def field : String := "ts"

def ofJson? : Json → Option ServerTime
  | .obj members => ((Json.obj members).find? field).bind fun v => v.str?.map ServerTime.mk
  | .arr [v] => v.str?.map ServerTime.mk
  | _ => none

def toJson (t : ServerTime) : Json := .obj [(field, .str t.ts)]

def digits? : List Char → Option Nat
  | [] => none
  | ds => if ds.all Json.isDigit then some (Json.ofDigits ds) else none

def signed? : List Char → Option Int
  | '+' :: ds => (digits? ds).map fun n => (n : Int)
  | '-' :: ds => (digits? ds).map fun n => -(n : Int)
  | ds => (digits? ds).map fun n => (n : Int)

def millis? (t : ServerTime) : Option Int :=
  (signed? t.ts.toList).bind fun n => if Number.InWord n then some n else none

end ServerTime

def serverTimes? : Json → Option (List ServerTime)
  | .arr items => items.mapM ServerTime.ofJson?
  | _ => none

end MarketWire.Rest
