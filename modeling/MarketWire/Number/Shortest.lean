import MarketWire.Number.Binary64

namespace MarketWire.Number

structure Decimal where
  digits : Nat
  exponent : Int
  deriving DecidableEq, Repr

def digitsOf (n : Nat) : List Char := Nat.toDigits 10 n

def digitCount (n : Nat) : Nat := (digitsOf n).length

namespace Decimal

def inSteps (num den : Nat) (k : Int) : Nat × Nat :=
  if k < 0 then (num * tenTo (-k).toNat, den) else (num, den * tenTo k.toNat)

def leadingExponent (num den : Nat) : Int :=
  let guess : Int := (digitCount num : Int) - (digitCount den : Int)
  let (n, d) := inSteps num den guess
  if d ≤ n then guess else guess - 1

structure Interval where
  low : Nat
  value : Nat
  high : Nat
  den : Nat
  closed : Bool

def intervalOf (x : Binary64) : Interval :=
  let (num, den) := Binary64.magnitude { x with coeff := 1 }
  let c := x.coeff
  let below := if c = twoTo 52 ∧ Binary64.leastExponent < x.exponent then 4 * c - 1 else 4 * c - 2
  ⟨below * num, 4 * c * num, (4 * c + 2) * num, 4 * den, c % 2 == 0⟩

def Interval.holds (i : Interval) (candidate : Nat) (k : Int) : Bool :=
  let compareAt (bound : Nat) : Ordering :=
    if k < 0 then compare (candidate * i.den) (bound * tenTo (-k).toNat)
    else compare (candidate * tenTo k.toNat * i.den) bound
  let aboveLow := compareAt i.low
  let belowHigh := compareAt i.high
  (aboveLow == .gt || i.closed && aboveLow == .eq)
    && (belowHigh == .lt || i.closed && belowHigh == .eq)

def Interval.onGrid (i : Interval) (k : Int) : Option Nat :=
  let (n, d) := inSteps i.value i.den k
  let lower := n / d
  let upper := lower + 1
  let remainder := 2 * (n % d)
  let lowerFirst := remainder < d || remainder == d && lower % 2 == 0
  let lowerIn := 0 < lower && i.holds lower k
  let upperIn := i.holds upper k
  if lowerIn && (lowerFirst || !upperIn) then some lower
  else if upperIn then some upper
  else none

def search (i : Interval) (k : Int) : Nat → Nat × Int
  | 0 => (0, k)
  | n + 1 =>
      match i.onGrid k with
      | some d => (d, k)
      | none => search i (k - 1) n

def trim : Nat → Nat → Int → Decimal
  | 0, digits, k => ⟨digits, k⟩
  | n + 1, digits, k => if digits % 10 = 0 then trim n (digits / 10) (k + 1) else ⟨digits, k⟩

def shortest (x : Binary64) : Decimal :=
  if x.isZero then ⟨0, 0⟩
  else
    let (num, den) := x.magnitude
    let (d, k) := search (intervalOf x) (leadingExponent num den) 18
    trim 20 d k

end Decimal

structure Layout where
  least : Int
  greatest : Int
  plusSign : Bool

namespace Layout

def fixed (digits : List Char) (lead : Int) : List Char :=
  if lead < 0 then
    '0' :: '.' :: (List.replicate (-lead - 1).toNat '0' ++ digits)
  else
    let whole := lead.toNat + 1
    if digits.length ≤ whole then
      digits ++ List.replicate (whole - digits.length) '0' ++ ['.', '0']
    else digits.take whole ++ '.' :: digits.drop whole

def scientific (plusSign : Bool) (digits : List Char) (lead : Int) : List Char :=
  let mantissa :=
    match digits with
    | [] => []
    | [d] => [d]
    | d :: rest => d :: '.' :: rest
  let sign := if lead < 0 then ['-'] else if plusSign then ['+'] else []
  mantissa ++ 'e' :: (sign ++ digitsOf lead.natAbs)

def render (layout : Layout) (x : Binary64) : List Char :=
  let sign := if x.negative then ['-'] else []
  if x.isZero then sign ++ ['0', '.', '0']
  else
    let d := Decimal.shortest x
    let digits := digitsOf d.digits
    let lead := d.exponent + digits.length - 1
    if layout.least ≤ lead ∧ lead ≤ layout.greatest then sign ++ fixed digits lead
    else sign ++ scientific layout.plusSign digits lead

end Layout

end MarketWire.Number
