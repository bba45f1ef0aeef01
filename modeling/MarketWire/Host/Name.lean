import MarketWire.Host.Folding
import MarketWire.Host.Label
import MarketWire.Host.Punycode

namespace MarketWire.Host.Name

def mark : List Char := ['x', 'n', '-', '-']

def maxEncoded : Nat := 2000

def isHidden (cs : List Char) : Bool :=
  !Label.isAscii cs && cs.all Folding.isPlain && Text.Normal.isNormal cs && !mark.isPrefixOf cs

def decode? (cs : List Char) : Option (List Char) :=
  if cs.length ≤ maxEncoded then
    (Punycode.decode? cs).bind fun label => if isHidden label then some label else none
  else none

def label? (cs : List Char) : Option (List Char) :=
  (if mark.isPrefixOf cs then decode? (cs.drop mark.length) else some cs).bind fun label =>
    if Label.isValid label then some label else none

def isDirected (labels : List (List Char)) : Bool :=
  !labels.any Label.isBidirectional || labels.all Label.isDirected

def parse? (cs : List Char) : Option (List Char) :=
  let plain := Text.Normal.normalize (cs.flatMap Folding.fold)
  ((Text.pieces (· == '.') plain).mapM label?).bind fun labels =>
    let name := Text.join '.' labels
    if name.isEmpty || !isDirected labels then none else some name

end MarketWire.Host.Name
