import MarketWire.Number.Numeral
import MarketWire.Number.Power
import MarketWire.Number.Shortest
import MarketWire.Rest.Header
import MarketWire.Text.Pieces

namespace MarketWire.Rest.Framing

def lengthName : String := "content-length"

def codingName : String := "transfer-encoding"

def chunked : List Char := ['c', 'h', 'u', 'n', 'k', 'e', 'd']

def isPrintable (value : String) : Bool :=
  value.toList.all fun c => c == '\t' || (0x20 ≤ c.toNat && c.toNat < 0x7f)

def number? (cs : List Char) : Option Nat :=
  (Number.ofNumeral? 10 (Text.stripEnds Text.isBlank cs)).bind fun n =>
    if n < Number.twoTo 64 then some n else none

def length? (value : String) : Option Nat :=
  match (Text.pieces (· == ',') value.toList).mapM number? with
  | some (n :: more) => if isPrintable value && more.all (· == n) then some n else none
  | _ => none

def isChunked (value : String) : Bool :=
  isPrintable value
    && ((Text.pieces (· == ',') value.toList).getLast?.any fun cs =>
      (Text.stripEnds Text.isBlank cs).map Char.toLower == chunked)

def withChunked (value : String) : String :=
  if isChunked value then value else value ++ ", " ++ String.ofList chunked

def without (name : String) (headers : List (String × String)) : List (String × String) :=
  headers.filter fun h => h.1 != name

def ownLength? (headers : List (String × String)) : Option Nat :=
  (headers.lookup lengthName).bind length?

def headersWithBody (headers : List (String × String)) (bodyLength : Nat) :
    List (String × String) :=
  match headers.lookup codingName, ownLength? headers with
  | some coding, some _ => Header.set (without lengthName headers) codingName (withChunked coding)
  | some coding, none => Header.set headers codingName (withChunked coding)
  | none, some _ => headers
  | none, none => Header.set headers lengthName (String.ofList (Number.digitsOf bodyLength))

def sentHeaders (headers : List (String × String)) (body : List UInt8) : List (String × String) :=
  if body.isEmpty then without codingName headers else headersWithBody headers body.length

def awaited (headers : List (String × String)) : Nat := (ownLength? headers).getD 0

def received? (headers : List (String × String)) (body : List UInt8) : Option (List UInt8) :=
  if awaited headers ≤ body.length then some (body.take (awaited headers)) else none

end MarketWire.Rest.Framing
