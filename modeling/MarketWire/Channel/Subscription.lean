import MarketWire.Channel.Depth
import MarketWire.Channel.Interval
import MarketWire.Json.Writer
import MarketWire.Members

namespace MarketWire.Channel

structure Params where
  entries : List (String × String)
  sorted : Members.Sorted entries

namespace Params

theorem ext {p q : Params} (h : p.entries = q.entries) : p = q := by
  cases p; cases q; cases h; rfl

instance : DecidableEq Params := fun p q =>
  if h : p.entries = q.entries then isTrue (ext h) else isFalse fun e => h (by rw [e])

def empty : Params := ⟨[], List.Pairwise.nil⟩

def insert (p : Params) (name value : String) : Params :=
  ⟨Members.insert name value p.entries, Members.sorted_insert p.sorted⟩

def ofList (entries : List (String × String)) : Params :=
  ⟨Members.ofList entries, Members.sorted_ofList entries⟩

def find? (p : Params) (name : String) : Option String := p.entries.lookup name

end Params

structure Subscription where
  channel : String
  params : Params
  deriving DecidableEq

namespace Subscription

def channelName : String := "channel"

def instrument : String := "instId"

def plain (channel : String) : Subscription := ⟨channel, Params.empty⟩

def withParam (s : Subscription) (name value : String) : Subscription :=
  { s with params := s.params.insert name value }

def withOptionalParam (s : Subscription) (name : String) : Option String → Subscription
  | some value => s.withParam name value
  | none => s

def param (s : Subscription) (name : String) : Option String := s.params.find? name

def instId (s : Subscription) : Option String := s.param instrument

def tickers (instId : String) : Subscription := (plain "tickers").withParam instrument instId

def trades (instId : String) : Subscription := (plain "trades").withParam instrument instId

def candles (instId : String) (interval : Interval) : Subscription :=
  (plain interval.channel).withParam instrument instId

def books (instId : String) (depth : Depth) : Subscription :=
  (plain depth.channel).withParam instrument instId

def markPrice (instId : String) : Subscription := (plain "mark-price").withParam instrument instId

def indexTickers (instId : String) : Subscription :=
  (plain "index-tickers").withParam instrument instId

def fundingRate (instId : String) : Subscription :=
  (plain "funding-rate").withParam instrument instId

def account (ccy : Option String) : Subscription := (plain "account").withOptionalParam "ccy" ccy

def ofInstrumentType (channel instType : String) (instId : Option String) : Subscription :=
  ((plain channel).withParam "instType" instType).withOptionalParam instrument instId

def positions (instType : String) (instId : Option String) : Subscription :=
  ofInstrumentType "positions" instType instId

def orders (instType : String) (instId : Option String) : Subscription :=
  ofInstrumentType "orders" instType instId

def ordersAlgo (instType : String) (instId : Option String) : Subscription :=
  ofInstrumentType "orders-algo" instType instId

def balanceAndPosition : Subscription := plain "balance_and_position"

def privateChannels : List String := [
  "account", "positions", "balance_and_position", "orders", "orders-algo", "algo-advance",
  "liquidation-warning", "account-greeks"]

def isPrivate (s : Subscription) : Bool := privateChannels.contains s.channel

def toJson (s : Subscription) : Json :=
  .obj ((channelName, .str s.channel) :: s.params.entries.map fun p => (p.1, .str p.2))

def wireText (s : Subscription) : String := s.toJson.text

def ofArg? (arg : Json) : Option Subscription :=
  match arg with
  | .obj members =>
      match (arg.find? channelName).bind Json.str? with
      | some channel =>
          some ⟨channel, Params.ofList (members.filterMap fun m =>
            if m.1 = channelName then none else m.2.str?.map fun v => (m.1, v))⟩
      | none => none
  | _ => none

def readMembers : List (Json.Literal × Json.Draft) → Option String → List (String × String) →
    Option Subscription
  | [], some channel, params => some ⟨channel, Params.ofList params.reverse⟩
  | [], none, _ => none
  | (l, d) :: rest, channel, params =>
      match Json.Literal.text? l, d.str? with
      | some name, some value =>
          if name = channelName then
            match channel with
            | none => readMembers rest (some value) params
            | some _ => none
          else readMembers rest channel ((name, value) :: params)
      | _, _ => none

def read? (text : String) : Option Subscription :=
  match Json.Draft.read? text.toList with
  | some (.obj members) => readMembers members none []
  | _ => none

def label (s : Subscription) : String :=
  s.params.entries.foldl (fun t p => t ++ " " ++ p.1 ++ "=" ++ p.2) s.channel

def compareParams : List (String × String) → List (String × String) → Ordering
  | [], [] => .eq
  | [], _ :: _ => .lt
  | _ :: _, [] => .gt
  | (k, v) :: xs, (l, w) :: ys =>
      ((compare k l).then (compare v w)).then (compareParams xs ys)

def compare (a b : Subscription) : Ordering :=
  (Ord.compare a.channel b.channel).then (compareParams a.params.entries b.params.entries)

end Subscription

end MarketWire.Channel
