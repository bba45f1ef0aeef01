import MarketWire.Channel.Subscription
import MarketWire.Stream.Error
import MarketWire.Text.Blank

namespace MarketWire.Stream

open Channel (Subscription Interval Depth)

inductive Feed where
  | tickers (instId : String)
  | trades (instId : String)
  | candles (instId interval : String)
  | books (instId depth : String)
  | markPrice (instId : String)
  | indexTickers (instId : String)
  | fundingRate (instId : String)
  | account (ccy : Option String)
  | positions (instType : String) (instId : Option String)
  | orders (instType : String) (instId : Option String)
  | ordersAlgo (instType : String) (instId : Option String)
  | balanceAndPosition
  deriving DecidableEq, Repr

namespace Feed

def require (name value : String) : Except StreamError String :=
  let value := Text.trim value
  if value.isEmpty then .error (.invalidParameter (name ++ " must not be empty")) else .ok value

def requireInstrument (instId : String) : Except StreamError String := require "inst_id" instId

def requireType (instType : String) : Except StreamError String := require "inst_type" instType

def interval (s : String) : Except StreamError Interval :=
  match Interval.ofLabel? s with
  | some i => .ok i
  | none => .error (.invalidParameter (Interval.rejection s))

def depth (s : String) : Except StreamError Depth :=
  match Depth.ofChannel? s with
  | some d => .ok d
  | none => .error (.invalidParameter (Depth.rejection s))

def subscription : Feed → Except StreamError Subscription
  | tickers instId => (requireInstrument instId).map .tickers
  | trades instId => (requireInstrument instId).map .trades
  | candles instId label =>
      (interval label).bind fun i => (requireInstrument instId).map fun id => .candles id i
  | books instId channel =>
      (depth channel).bind fun d => (requireInstrument instId).map fun id => .books id d
  | markPrice instId => (requireInstrument instId).map .markPrice
  | indexTickers instId => (requireInstrument instId).map .indexTickers
  | fundingRate instId => (requireInstrument instId).map .fundingRate
  | account ccy => .ok (.account ccy)
  | positions instType instId => (requireType instType).map fun t => .positions t instId
  | orders instType instId => (requireType instType).map fun t => .orders t instId
  | ordersAlgo instType instId => (requireType instType).map fun t => .ordersAlgo t instId
  | balanceAndPosition => .ok .balanceAndPosition

end Feed

end MarketWire.Stream
