import MarketWire.Digest.Sha256

namespace MarketWire.Digest.Hmac

def blockSize : Nat := 64

def blockKey (key : List UInt8) : List UInt8 :=
  let k := if blockSize < key.length then Sha256.hash key else key
  k ++ List.replicate (blockSize - k.length) 0

def mac (key message : List UInt8) : List UInt8 :=
  let k := blockKey key
  let inner := Sha256.hash (k.map (· ^^^ 0x36) ++ message)
  Sha256.hash (k.map (· ^^^ 0x5c) ++ inner)

end MarketWire.Digest.Hmac
