import MarketWire.Number.Numeral
import MarketWire.Text.Pieces

namespace MarketWire.Host.Ipv6

def groupCount : Nat := 8

def group? (cs : List Char) : Option Nat :=
  if cs.length ≤ 4 then Number.ofNumeral? 16 cs else none

def byte? (cs : List Char) : Option Nat :=
  if 1 < cs.length ∧ cs.head? = some '0' then none
  else (Number.ofNumeral? 10 cs).bind fun n => if n < 256 then some n else none

def bytes? (cs : List Char) : Option (List Nat) :=
  match (Text.pieces (· == '.') cs).mapM byte? with
  | some [a, b, c, d] => some [a * 256 + b, c * 256 + d]
  | _ => none

def lastGroups? : List (List Char) → Option (List Nat)
  | [] => some []
  | [g] =>
      match group? g with
      | some n => some [n]
      | none => bytes? g
  | g :: rest => (group? g).bind fun n => (lastGroups? rest).map (n :: ·)

def groupTexts (cs : List Char) : List (List Char) :=
  if cs.isEmpty then [] else Text.pieces (· == ':') cs

def splitGap : List Char → Option (List Char × List Char)
  | ':' :: ':' :: rest => some ([], rest)
  | c :: rest => (splitGap rest).map fun s => (c :: s.1, s.2)
  | [] => none

def fill? (front back : List Nat) : Option (List Nat) :=
  let given := front.length + back.length
  if given < groupCount then some (front ++ List.replicate (groupCount - given) 0 ++ back) else none

def parse? (cs : List Char) : Option (List Nat) :=
  match splitGap cs with
  | some (before, after) =>
      ((groupTexts before).mapM group?).bind fun front =>
        (lastGroups? (groupTexts after)).bind (fill? front)
  | none =>
      (lastGroups? (groupTexts cs)).bind fun gs => if gs.length = groupCount then some gs else none

def groupText (n : Nat) : List Char := Nat.toDigits 16 n

def groupsText (gs : List Nat) : List Char := Text.join ':' (gs.map groupText)

def zeros (gs : List Nat) : Nat := (gs.takeWhile (· == 0)).length

def longestGap : List Nat → Nat × Nat
  | [] => (0, 0)
  | g :: rest =>
      let (start, length) := longestGap rest
      if length ≤ zeros (g :: rest) then (0, zeros (g :: rest)) else (start + 1, length)

def text (gs : List Nat) : List Char :=
  let (start, length) := longestGap gs
  if length ≤ 1 then groupsText gs
  else groupsText (gs.take start) ++ ':' :: ':' :: groupsText (gs.drop (start + length))

end MarketWire.Host.Ipv6
