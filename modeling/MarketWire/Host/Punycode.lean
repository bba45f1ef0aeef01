import MarketWire.Number.Numeral

namespace MarketWire.Host.Punycode

def digit? (c : Char) : Option Nat :=
  (Number.digitValue? c).map fun n => if n < 10 then n + 26 else n - 10

def threshold (place bias : Nat) : Nat :=
  if place ≤ bias then 1 else min 26 (place - bias)

def shrink (delta : Nat) (bias : Nat) : Nat × Nat :=
  if 455 < delta then shrink (delta / 35) (bias + 36) else (delta, bias)
termination_by delta
decreasing_by omega

def adapt (delta count : Nat) (first : Bool) : Nat :=
  let delta := if first then delta / 700 else delta / 2
  let (delta, bias) := shrink (delta + delta / count) 0
  bias + 36 * delta / (delta + 38)

structure Decoder where
  label : List Char
  position : Nat
  code : Nat
  bias : Nat
  place : Nat
  weight : Nat
  value : Nat

namespace Decoder

def start (plain : List Char) : Decoder := ⟨plain, 0, 128, 72, 36, 1, 0⟩

def insert? (d : Decoder) (value : Nat) : Option Decoder :=
  let count := d.label.length + 1
  let target := d.position + value
  let code := d.code + target / count
  if code.isValidChar then
    some ⟨d.label.insertIdx (target % count) (Char.ofNat code), target % count + 1, code,
      adapt value count (d.position == 0), 36, 1, 0⟩
  else none

def step? (d : Decoder) (c : Char) : Option Decoder :=
  (digit? c).bind fun n =>
    let value := d.value + n * d.weight
    let t := threshold d.place d.bias
    if n < t then d.insert? value
    else some { d with place := d.place + 36, weight := d.weight * (36 - t), value }

def isBetweenNumbers (d : Decoder) : Bool := d.place == 36

end Decoder

def split (cs : List Char) : List Char × List Char :=
  let plain := (cs.reverse.dropWhile (· != '-')).reverse.dropLast
  if plain.isEmpty then ([], cs) else (plain, cs.drop (plain.length + 1))

def decode? (cs : List Char) : Option (List Char) :=
  let (plain, numbers) := split cs
  (numbers.foldlM Decoder.step? (Decoder.start plain)).bind fun d =>
    if d.isBetweenNumbers then some d.label else none

end MarketWire.Host.Punycode
