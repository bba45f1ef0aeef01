import MarketWire.Number.Numeral
import MarketWire.Text.Utf8

namespace MarketWire.Text.Percent

def upperDigit (n : Nat) : Char := if n < 10 then Char.ofNat (48 + n) else Char.ofNat (55 + n)

def escapeByte (b : UInt8) : List Char := ['%', upperDigit (b.toNat / 16), upperDigit (b.toNat % 16)]

def encodeChars (keep : Char → Bool) (cs : List Char) : List Char :=
  cs.flatMap fun c => if keep c then [c] else (Utf8.encodeChar c).flatMap escapeByte

def byte? (a b : Char) : Option UInt8 := (Number.ofNumeral? 16 [a, b]).map Nat.toUInt8

def bytes : List Char → List UInt8
  | '%' :: a :: b :: rest =>
      match byte? a b with
      | some byte => byte :: bytes rest
      | none => Utf8.encodeChar '%' ++ bytes (a :: b :: rest)
  | c :: rest => Utf8.encodeChar c ++ bytes rest
  | [] => []

def decode (cs : List Char) : List Char := (Utf8.decode (bytes cs)).toList

def isAlphanumeric (c : Char) : Bool :=
  ('0' ≤ c && c ≤ '9') || ('a' ≤ c && c ≤ 'z') || ('A' ≤ c && c ≤ 'Z')

def keptInForm (c : Char) : Bool := isAlphanumeric c || ['*', '-', '.', '_'].contains c

def formText (s : String) : List Char :=
  (encodeChars (fun c => keptInForm c || c == ' ') s.toList).map fun c => if c = ' ' then '+' else c

def formPairs : List (String × String) → List Char
  | [] => []
  | [(k, v)] => formText k ++ '=' :: formText v
  | (k, v) :: rest => formText k ++ '=' :: (formText v ++ '&' :: formPairs rest)

end MarketWire.Text.Percent
