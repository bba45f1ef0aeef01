import MarketWire.Number.Shortest

namespace MarketWire.Rest

inductive RestError where
  | http
  | refusedByApi (code msg : String)
  | unauthorized (text : String)
  | rateLimited (text : String)
  | serverError (text : String)
  | undecodable (reason : String)
  | invalidParameter (reason : String)
  | unexpectedStatus (status : Nat) (text : String)
  deriving DecidableEq, Repr

namespace RestError

-- For `http` the program goes on with the transport's own words.
def message : RestError → String
  | http => "HTTP error: "
  | refusedByApi code msg => "OKX API error " ++ code ++ ": " ++ msg
  | unauthorized text => "Unauthorized: " ++ text
  | rateLimited text => "Rate limited: " ++ text
  | serverError text => "Server error: " ++ text
  | undecodable reason => "Deserialization error: " ++ reason
  | invalidParameter reason => "Invalid parameter: " ++ reason
  | unexpectedStatus status text =>
      "Unexpected status " ++ String.ofList (Number.digitsOf status) ++ ": " ++ text

def code : RestError → Option String
  | refusedByApi code _ => some code
  | _ => none

end RestError

end MarketWire.Rest
