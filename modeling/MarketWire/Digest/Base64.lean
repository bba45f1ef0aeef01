namespace MarketWire.Digest.Base64

def letter (n : Nat) : Char :=
  if n < 26 then Char.ofNat (65 + n)
  else if n < 52 then Char.ofNat (71 + n)
  else if n < 62 then Char.ofNat (n - 4)
  else if n = 62 then '+'
  else '/'

def encodeChars : List UInt8 → List Char
  | a :: b :: c :: rest =>
      let n := a.toNat * 65536 + b.toNat * 256 + c.toNat
      letter (n / 262144) :: letter (n / 4096 % 64) :: letter (n / 64 % 64) :: letter (n % 64)
        :: encodeChars rest
  | [a, b] =>
      let n := a.toNat * 65536 + b.toNat * 256
      [letter (n / 262144), letter (n / 4096 % 64), letter (n / 64 % 64), '=']
  | [a] =>
      let n := a.toNat * 65536
      [letter (n / 262144), letter (n / 4096 % 64), '=', '=']
  | [] => []

def encode (bytes : List UInt8) : String := String.ofList (encodeChars bytes)

end MarketWire.Digest.Base64
