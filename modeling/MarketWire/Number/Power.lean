namespace MarketWire.Number

def twoTo (n : Nat) : Nat := Nat.pow 2 n

def tenTo (n : Nat) : Nat := Nat.pow 10 n

def InWord (n : Int) : Prop := -(twoTo 63 : Int) ≤ n ∧ n < twoTo 63

instance (n : Int) : Decidable (InWord n) := inferInstanceAs (Decidable (_ ∧ _))

def wrapped (n : Int) : Int := n.bmod (twoTo 64)

end MarketWire.Number
