import MarketWire.Text.Blank
import MarketWire.Text.Joining

namespace MarketWire.Host.Label

def reserved : List Char :=
  [' ', '"', '#', '%', '/', ':', '<', '>', '?', '@', '[', '\\', ']', '^', '\x60', '\x7b', '|', '\x7d',
    '\x7f']

def unfitRanges : List (Nat × Nat) := [
  (0xa8, 0xa8), (0xaf, 0xaf), (0xb4, 0xb4), (0xb8, 0xb8), (0x2d8, 0x2dd), (0x37a, 0x37a),
  (0x384, 0x385), (0x1fbd, 0x1fbd), (0x1fbf, 0x1fc1), (0x1fcd, 0x1fcf), (0x1fdd, 0x1fdf),
  (0x1fed, 0x1fef), (0x1ffd, 0x1ffe), (0x2017, 0x2017), (0x2024, 0x2026), (0x203e, 0x203e),
  (0x2047, 0x2049), (0x2100, 0x2101), (0x2105, 0x2106), (0x2488, 0x249b), (0x2a74, 0x2a74),
  (0x2ff0, 0x2fff), (0x309b, 0x309c), (0x31ef, 0x31ef), (0x33c2, 0x33c2), (0x33c7, 0x33c7),
  (0x33d8, 0x33d8), (0xfc5e, 0xfc63), (0xfdfa, 0xfdfb), (0xfe12, 0xfe13), (0xfe16, 0xfe16),
  (0xfe19, 0xfe19), (0xfe30, 0xfe30), (0xfe37, 0xfe38), (0xfe47, 0xfe4c), (0xfe52, 0xfe52),
  (0xfe55, 0xfe56), (0xfe5b, 0xfe5c), (0xfe5f, 0xfe5f), (0xfe64, 0xfe65), (0xfe68, 0xfe68),
  (0xfe6a, 0xfe6b), (0xfe70, 0xfe70), (0xfe72, 0xfe72), (0xfe74, 0xfe74), (0xfe76, 0xfe76),
  (0xfe78, 0xfe78), (0xfe7a, 0xfe7a), (0xfe7c, 0xfe7c), (0xfe7e, 0xfe7e), (0xff02, 0xff03),
  (0xff05, 0xff05), (0xff0f, 0xff0f), (0xff1a, 0xff1a), (0xff1c, 0xff1c), (0xff1e, 0xff20),
  (0xff3b, 0xff3e), (0xff40, 0xff40), (0xff5b, 0xff5d), (0xffe3, 0xffe3), (0xfffc, 0xfffd),
  (0x1f100, 0x1f100)]

def isUnfit (c : Char) : Bool :=
  reserved.contains c || Text.isUnseen c && !Text.isMark c && !Text.Joining.isJoiner c
    || Text.inRanges unfitRanges c

def isAscii (cs : List Char) : Bool := cs.all fun c => c.toNat < 0x80

def maxLength : Nat := 1000

def isValid (cs : List Char) : Bool :=
  !cs.any isUnfit && !cs.head?.any Text.isMark && Text.Joining.isSound [] cs
    && (isAscii cs || cs.length ≤ maxLength)

open Text (Direction)

def directions (cs : List Char) : List Direction := cs.map Direction.ofChar

def isBidirectional (cs : List Char) : Bool :=
  (directions cs).any fun d => d == .rightToLeft || d == .arabicNumber

def lastDirection? (ds : List Direction) : Option Direction := ds.reverse.find? (· != .attached)

def isLeftToRight (ds : List Direction) : Bool :=
  ds.head? == some .leftToRight && !ds.contains .rightToLeft && !ds.contains .arabicNumber
    && (lastDirection? ds).any fun d => d == .leftToRight || d == .europeanNumber

def isRightToLeft (ds : List Direction) : Bool :=
  ds.head? == some .rightToLeft && !ds.contains .leftToRight
    && !(ds.contains .europeanNumber && ds.contains .arabicNumber)
    && (lastDirection? ds).any fun d =>
      d == .rightToLeft || d == .europeanNumber || d == .arabicNumber

def isDirected (cs : List Char) : Bool :=
  cs.isEmpty || isLeftToRight (directions cs) || isRightToLeft (directions cs)

end MarketWire.Host.Label
