namespace MarketWire.Number

def digitValue? (c : Char) : Option Nat :=
  if '0' ≤ c ∧ c ≤ '9' then some (c.toNat - 48)
  else if 'a' ≤ c ∧ c ≤ 'z' then some (c.toNat - 87)
  else if 'A' ≤ c ∧ c ≤ 'Z' then some (c.toNat - 55)
  else none

def appendDigit? (base n : Nat) (c : Char) : Option Nat :=
  (digitValue? c).bind fun d => if d < base then some (n * base + d) else none

def ofNumeral? (base : Nat) (cs : List Char) : Option Nat :=
  if cs.isEmpty then none else cs.foldlM (appendDigit? base) 0

end MarketWire.Number
