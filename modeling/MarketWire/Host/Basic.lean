import MarketWire.Host.Ipv4
import MarketWire.Host.Ipv6
import MarketWire.Host.Name
import MarketWire.Text.Percent

namespace MarketWire

inductive Host where
  | name (labels : String)
  | v4 (number : Nat)
  | v6 (groups : List Nat)
  deriving DecidableEq, Repr

structure Site where
  host : Host
  portNumber : Nat
  deriving DecidableEq, Repr

namespace Host

def inBrackets? : List Char → Option (List Char)
  | '[' :: rest => if rest.getLast? = some ']' then some rest.dropLast else none
  | _ => none

def parse? (cs : List Char) : Option Host :=
  if cs.head? = some '[' then ((inBrackets? cs).bind Ipv6.parse?).map .v6
  else
    (Name.parse? (Text.Percent.decode cs)).bind fun name =>
      if Ipv4.endsInNumber name then (Ipv4.parse? name).map .v4
      else some (.name (String.ofList name))

def ofText (cs : List Char) : Host :=
  match (inBrackets? cs).bind Ipv6.parse?, Ipv4.parse? cs with
  | some groups, _ => .v6 groups
  | none, some n => .v4 n
  | none, none => .name (String.ofList (cs.map Char.toLower))

def text : Host → List Char
  | name labels => labels.toList
  | v4 n => Ipv4.text n
  | v6 groups => '[' :: (Ipv6.text groups ++ [']'])

end Host

end MarketWire
