namespace MarketWire.Text

def inRanges (ranges : List (Nat × Nat)) (c : Char) : Bool :=
  ranges.any fun r => r.1 ≤ c.toNat && c.toNat ≤ r.2

structure ShiftRange where
  first : Nat
  last : Nat
  step : Nat
  shift : Int

def ShiftRange.covers (r : ShiftRange) (n : Nat) : Bool :=
  r.first ≤ n && n ≤ r.last && (n - r.first) % r.step == 0

def ShiftRange.image (r : ShiftRange) (c : Char) : Char := Char.ofNat (c.toNat + r.shift).toNat

end MarketWire.Text
