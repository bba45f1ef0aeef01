namespace MarketWire.Text.Utf8

def encodeChar (c : Char) : List UInt8 :=
  let n := c.toNat
  if n < 0x80 then [n.toUInt8]
  else if n < 0x800 then [(0xc0 + n / 64).toUInt8, (0x80 + n % 64).toUInt8]
  else if n < 0x10000 then
    [(0xe0 + n / 4096).toUInt8, (0x80 + n / 64 % 64).toUInt8, (0x80 + n % 64).toUInt8]
  else
    [(0xf0 + n / 262144).toUInt8, (0x80 + n / 4096 % 64).toUInt8, (0x80 + n / 64 % 64).toUInt8,
      (0x80 + n % 64).toUInt8]

def encode (s : String) : List UInt8 := s.toList.flatMap encodeChar

def replacement : Char := '\ufffd'

structure Pending where
  bits : Nat
  missing : Nat
  least : Nat
  greatest : Nat

inductive Start where
  | whole (c : Char)
  | begun (p : Pending)
  | broken

def start (b : Nat) : Start :=
  if b < 0x80 then .whole (Char.ofNat b)
  else if b < 0xc2 then .broken
  else if b < 0xe0 then .begun ⟨b - 0xc0, 1, 0x80, 0xbf⟩
  else if b = 0xe0 then .begun ⟨0, 2, 0xa0, 0xbf⟩
  else if b = 0xed then .begun ⟨0xd, 2, 0x80, 0x9f⟩
  else if b < 0xf0 then .begun ⟨b - 0xe0, 2, 0x80, 0xbf⟩
  else if b = 0xf0 then .begun ⟨0, 3, 0x90, 0xbf⟩
  else if b < 0xf4 then .begun ⟨b - 0xf0, 3, 0x80, 0xbf⟩
  else if b = 0xf4 then .begun ⟨4, 3, 0x80, 0x8f⟩
  else .broken

def begin (b : Nat) : List Char × Option Pending :=
  match start b with
  | .whole c => ([c], none)
  | .begun p => ([], some p)
  | .broken => ([replacement], none)

def step (state : Option Pending) (b : Nat) : List Char × Option Pending :=
  match state with
  | none => begin b
  | some p =>
      if p.least ≤ b ∧ b ≤ p.greatest then
        let bits := p.bits * 64 + (b - 0x80)
        if p.missing ≤ 1 then ([Char.ofNat bits], none)
        else ([], some ⟨bits, p.missing - 1, 0x80, 0xbf⟩)
      else
        let (cs, next) := begin b
        (replacement :: cs, next)

def run (state : Option Pending) : List UInt8 → List Char
  | [] =>
      match state with
      | none => []
      | some _ => [replacement]
  | b :: bs =>
      let (cs, next) := step state b.toNat
      cs ++ run next bs

def decode (bytes : List UInt8) : String := String.ofList (run none bytes)

end MarketWire.Text.Utf8
