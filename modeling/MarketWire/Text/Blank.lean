namespace MarketWire.Text

def isBlank (c : Char) : Bool :=
  let n := c.toNat
  (0x9 ≤ n && n ≤ 0xd) || n == 0x20 || n == 0x85 || n == 0xa0 || n == 0x1680
    || (0x2000 ≤ n && n ≤ 0x200a) || n == 0x2028 || n == 0x2029 || n == 0x202f
    || n == 0x205f || n == 0x3000

def stripEnd (p : Char → Bool) (cs : List Char) : List Char := (cs.reverse.dropWhile p).reverse

def stripEnds (p : Char → Bool) (cs : List Char) : List Char := stripEnd p (cs.dropWhile p)

def trim (s : String) : String := String.ofList (stripEnds isBlank s.toList)

end MarketWire.Text
