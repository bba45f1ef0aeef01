import MarketWire.Number.Power

namespace MarketWire.Number

structure Binary64 where
  negative : Bool
  coeff : Nat
  exponent : Int
  deriving DecidableEq, Repr

namespace Binary64

def leastExponent : Int := -1074

def greatestExponent : Int := 971

def zero (negative : Bool) : Binary64 := ⟨negative, 0, leastExponent⟩

def roundQuotient (num den : Nat) : Nat :=
  let q := num / den
  let r := 2 * (num % den)
  if r < den then q
  else if den < r then q + 1
  else if q % 2 = 0 then q else q + 1

def scaleBy (num den : Nat) (exponent : Int) : Nat × Nat :=
  if exponent < 0 then (num * twoTo (-exponent).toNat, den) else (num, den * twoTo exponent.toNat)

def exponentOf (num den : Nat) : Int :=
  let guess : Int := (Nat.log2 num : Int) - (Nat.log2 den : Int) - 52
  let (n, d) := scaleBy num den guess
  let fitted := if n < d * twoTo 52 then guess - 1 else guess
  max fitted leastExponent

def ofRatio (negative : Bool) (num den : Nat) : Option Binary64 :=
  if num = 0 then some (zero negative)
  else
    let e := exponentOf num den
    let (n, d) := scaleBy num den e
    let c := roundQuotient n d
    let (c, e) := if c = twoTo 53 then (twoTo 52, e + 1) else (c, e)
    if greatestExponent < e then none
    else if c = 0 then some (zero negative)
    else some ⟨negative, c, e⟩

def magnitude (x : Binary64) : Nat × Nat :=
  if x.exponent < 0 then (x.coeff, twoTo (-x.exponent).toNat)
  else (x.coeff * twoTo x.exponent.toNat, 1)

def isZero (x : Binary64) : Bool := x.coeff == 0

def withSign (x : Binary64) (negative : Bool) : Binary64 := { x with negative }

def mul (x y : Binary64) : Option Binary64 :=
  let (a, b) := x.magnitude
  let (c, d) := y.magnitude
  ofRatio (x.negative != y.negative) (a * c) (b * d)

def div (x y : Binary64) : Option Binary64 :=
  let (a, b) := x.magnitude
  let (c, d) := y.magnitude
  if c = 0 then none else ofRatio (x.negative != y.negative) (a * d) (b * c)

def toBits (x : Binary64) : UInt64 :=
  let sign : Nat := if x.negative then twoTo 63 else 0
  if x.coeff < twoTo 52 then (sign + x.coeff).toUInt64
  else (sign + (x.exponent + 1075).toNat * twoTo 52 + (x.coeff - twoTo 52)).toUInt64

def ofBits? (bits : UInt64) : Option Binary64 :=
  let n := bits.toNat
  let negative := decide (twoTo 63 ≤ n)
  let biased : Nat := n / twoTo 52 % 2048
  let fraction : Nat := n % twoTo 52
  if biased = 2047 then none
  else if biased = 0 then some ⟨negative, fraction, leastExponent⟩
  else some ⟨negative, fraction + twoTo 52, (biased : Int) - 1075⟩

def toFloat (x : Binary64) : Float := Float.ofBits x.toBits

def ofFloat? (x : Float) : Option Binary64 := ofBits? x.toBits

end Binary64

end MarketWire.Number
