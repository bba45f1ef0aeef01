import MarketWire.Json.Basic
import MarketWire.Text.Quoted

namespace MarketWire.Json

def realLayout : Number.Layout := ⟨-5, 15, true⟩

def escapeChar (c : Char) : List Char :=
  if c = '"' then ['\\', '"']
  else if c = '\\' then ['\\', '\\']
  else if c = '\x08' then ['\\', 'b']
  else if c = '\x0c' then ['\\', 'f']
  else if c = '\n' then ['\\', 'n']
  else if c = '\r' then ['\\', 'r']
  else if c = '\t' then ['\\', 't']
  else if c.toNat < 32 then
    ['\\', 'u', '0', '0', Text.Quoted.hexDigit (c.toNat / 16), Text.Quoted.hexDigit (c.toNat % 16)]
  else [c]

def writeString (s : String) : List Char := '"' :: (s.toList.flatMap escapeChar ++ ['"'])

def writeInt (i : Int) : List Char :=
  if i < 0 then '-' :: Number.digitsOf i.natAbs else Number.digitsOf i.natAbs

def writeNumber : JsonNumber → List Char
  | .int i => writeInt i
  | .real d => realLayout.render d

mutual

def write : Json → List Char
  | .null => ['n', 'u', 'l', 'l']
  | .bool true => ['t', 'r', 'u', 'e']
  | .bool false => ['f', 'a', 'l', 's', 'e']
  | .num n => writeNumber n
  | .str s => writeString s
  | .arr items => '[' :: writeItems items
  | .obj members => '\x7b' :: writeMembers members

def writeItems : List Json → List Char
  | [] => [']']
  | v :: rest => write v ++ writeMoreItems rest

def writeMoreItems : List Json → List Char
  | [] => [']']
  | v :: rest => ',' :: (write v ++ writeMoreItems rest)

def writeMembers : List (String × Json) → List Char
  | [] => ['\x7d']
  | (k, v) :: rest => writeString k ++ ':' :: (write v ++ writeMoreMembers rest)

def writeMoreMembers : List (String × Json) → List Char
  | [] => ['\x7d']
  | (k, v) :: rest =>
      ',' :: (writeString k ++ ':' :: (write v ++ writeMoreMembers rest))

end

def text (v : Json) : String := String.ofList (write v)

end MarketWire.Json
