import MarketWire.Json.Basic

namespace MarketWire.Json

inductive Glyph where
  | char (c : Char)
  | unit (code : Nat)
  deriving DecidableEq, Repr

abbrev Literal := List Glyph

structure Numeral where
  negative : Bool
  whole : List Char
  fraction : Option (List Char)
  exponent : Option (Bool × List Char)
  deriving DecidableEq, Repr

inductive Draft where
  | null
  | bool (value : Bool)
  | num (numeral : Numeral)
  | str (literal : Literal)
  | arr (items : List Draft)
  | obj (members : List (Literal × Draft))

def isHighUnit (u : Nat) : Bool := 0xd800 ≤ u && u ≤ 0xdbff

def isLowUnit (u : Nat) : Bool := 0xdc00 ≤ u && u ≤ 0xdfff

def Literal.chars? : Literal → Option (List Char)
  | [] => some []
  | .char c :: rest => (Literal.chars? rest).map (c :: ·)
  | .unit u :: rest =>
      if isHighUnit u then
        match rest with
        | .unit v :: rest =>
            if isLowUnit v then
              (Literal.chars? rest).map
                (Char.ofNat (0x10000 + (u - 0xd800) * 0x400 + (v - 0xdc00)) :: ·)
            else none
        | _ => none
      else if isLowUnit u then none
      else (Literal.chars? rest).map (Char.ofNat u :: ·)

def Literal.text? (l : Literal) : Option String := (Literal.chars? l).map String.ofList

def digitValue (c : Char) : Nat := c.toNat - 48

def ofDigits (ds : List Char) : Nat := ds.foldl (fun n d => n * 10 + digitValue d) 0

def wordLimit : Nat := Number.twoTo 64

def takeWord (start : Nat) : List Char → Nat × List Char
  | [] => (start, [])
  | d :: ds =>
      let next := start * 10 + digitValue d
      if next < wordLimit then takeWord next ds else (start, d :: ds)

open Number in
def scaleDown (x : Binary64) (exponent : Int) : Nat → Option (Binary64 × Int)
  | 0 => some (x, exponent)
  | n + 1 =>
      if -308 ≤ exponent ∨ x.isZero then some (x, exponent)
      else
        (Binary64.ofRatio false (tenTo 308) 1).bind fun step =>
          (x.div step).bind fun y => scaleDown y (exponent + 308) n

open Number in
def scalePower (x : Binary64) (exponent : Int) : Option Binary64 :=
  if x.isZero then some x
  else
    (Binary64.ofRatio false (tenTo exponent.natAbs) 1).bind fun power =>
      if 0 ≤ exponent then x.mul power else x.div power

open Number in
def scaleDecimal (negative : Bool) (significand : Nat) (exponent : Int) : Option Binary64 :=
  (Binary64.ofRatio false significand 1).bind fun start =>
    if 308 < exponent then
      if start.isZero then some (Binary64.zero negative) else none
    else
      (scaleDown start exponent 4).bind fun r =>
        (scalePower r.1 r.2).map (·.withSign negative)

def exponentLimit : Nat := Number.twoTo 31

def Numeral.value? (n : Numeral) : Option JsonNumber :=
  let (whole, wholeLeft) := takeWord 0 n.whole
  match n.fraction, n.exponent, wholeLeft with
  | none, none, [] =>
      if !n.negative then some (.int whole)
      else if 0 < whole ∧ whole ≤ Number.twoTo 63 then some (.int (-whole))
      else (Number.Binary64.ofRatio true whole 1).map .real
  | fraction, exponent, _ =>
      let digits := fraction.getD []
      let (significand, left) := takeWord whole digits
      let places : Int := (wholeLeft.length : Int) - ((digits.length - left.length : Nat) : Int)
      match exponent with
      | none => (scaleDecimal n.negative significand places).map .real
      | some (minus, ds) =>
          let e := ofDigits ds
          if exponentLimit ≤ e then
            if significand = 0 ∨ minus then some (.real (Number.Binary64.zero n.negative)) else none
          else
            (scaleDecimal n.negative significand (if minus then places - e else places + e)).map
              .real

mutual

def Draft.value? (levels : Nat) : Draft → Option Json
  | .null => some .null
  | .bool b => some (.bool b)
  | .num n => n.value?.map .num
  | .str l => (Literal.text? l).map .str
  | .arr items =>
      match levels with
      | 0 => none
      | n + 1 => (Draft.values? n items).map .arr
  | .obj members =>
      match levels with
      | 0 => none
      | n + 1 => (Draft.members? n members).map object

def Draft.values? (levels : Nat) : List Draft → Option (List Json)
  | [] => some []
  | d :: rest => do
      let v ← Draft.value? levels d
      let vs ← Draft.values? levels rest
      return v :: vs

def Draft.members? (levels : Nat) : List (Literal × Draft) → Option (List (String × Json))
  | [] => some []
  | (l, d) :: rest => do
      let k ← Literal.text? l
      let v ← Draft.value? levels d
      let ms ← Draft.members? levels rest
      return (k, v) :: ms

end

def maxLevels : Nat := 127

end MarketWire.Json
