import MarketWire.Number.Numeral
import MarketWire.Number.Power
import MarketWire.Number.Shortest
import MarketWire.Text.Pieces

namespace MarketWire.Host.Ipv4

def numeral : List Char → Nat × List Char
  | '0' :: 'x' :: ds => (16, ds)
  | '0' :: 'X' :: ds => (16, ds)
  | '0' :: d :: ds => (8, d :: ds)
  | ds => (10, ds)

def number? (cs : List Char) : Option Nat :=
  match numeral cs with
  | (16, []) => some 0
  | (base, ds) => Number.ofNumeral? base ds

def parts (cs : List Char) : List (List Char) :=
  let ps := Text.pieces (· == '.') cs
  if ps.getLast? = some [] then ps.dropLast else ps

def isDecimal (cs : List Char) : Bool := !cs.isEmpty && cs.all Char.isDigit

def endsInNumber (cs : List Char) : Bool :=
  (parts cs).getLast?.any fun p => isDecimal p || (number? p).isSome

def assemble? : Nat → List Nat → Option Nat
  | room + 1, [n] => if n < Number.twoTo (8 * (room + 1)) then some n else none
  | room + 1, n :: rest =>
      if n < 256 then (assemble? room rest).map (n * Number.twoTo (8 * room) + ·) else none
  | _, _ => none

def parse? (cs : List Char) : Option Nat := ((parts cs).mapM number?).bind (assemble? 4)

def text (n : Nat) : List Char :=
  Text.join '.' ([n / 16777216, n / 65536 % 256, n / 256 % 256, n % 256].map Number.digitsOf)

end MarketWire.Host.Ipv4
