import MarketWire.Number.Shortest

namespace MarketWire.Clock.Span

def microsPerMilli : Nat := 1000

def microsPerSecond : Nat := 1000000

def ofMillis (n : Nat) : Nat := n * microsPerMilli

def ofSeconds (n : Nat) : Nat := n * microsPerSecond

def millis (span : Nat) : Nat := span / microsPerMilli

def trimZeros (cs : List Char) : List Char := (cs.reverse.dropWhile (· == '0')).reverse

def decimalText (places count : Nat) : List Char :=
  let fraction := Number.digitsOf (count % Number.tenTo places)
  let padded := List.replicate (places - fraction.length) '0' ++ fraction
  let kept := if count % Number.tenTo places = 0 then [] else trimZeros padded
  Number.digitsOf (count / Number.tenTo places) ++ (if kept.isEmpty then [] else '.' :: kept)

def describe (span : Nat) : String :=
  if microsPerSecond ≤ span then String.ofList (decimalText 6 span ++ ['s'])
  else if microsPerMilli ≤ span then String.ofList (decimalText 3 span ++ ['m', 's'])
  else if 0 < span then String.ofList (decimalText 0 span ++ ['µ', 's'])
  else "0ns"

end MarketWire.Clock.Span
