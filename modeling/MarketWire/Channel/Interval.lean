import MarketWire.Json.Fields

namespace MarketWire.Channel

inductive Interval where
  | oneMinute
  | fiveMinutes
  | fifteenMinutes
  | oneHour
  | fourHours
  | oneDay
  deriving DecidableEq, Repr

namespace Interval

def all : List Interval := [oneMinute, fiveMinutes, fifteenMinutes, oneHour, fourHours, oneDay]

def label : Interval → String
  | oneMinute => "1m"
  | fiveMinutes => "5m"
  | fifteenMinutes => "15m"
  | oneHour => "1H"
  | fourHours => "4H"
  | oneDay => "1D"

def channel (i : Interval) : String := "candle" ++ i.label

def ofLabel? (s : String) : Option Interval := all.find? fun i => i.label == s

def rejection (s : String) : String :=
  "Invalid interval: " ++ s ++ ". Valid values: 1m, 5m, 15m, 1H, 4H, 1D"

def ofDraft? : Json.Draft → Option Interval
  | .str l => (Json.Literal.text? l).bind ofLabel?
  | .obj [(l, .null)] => (Json.Literal.text? l).bind ofLabel?
  | _ => none

def read? (text : String) : Option Interval := (Json.Draft.read? text.toList).bind ofDraft?

end Interval

end MarketWire.Channel
