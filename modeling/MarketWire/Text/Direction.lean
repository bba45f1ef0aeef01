import MarketWire.Text.Mark
import MarketWire.Text.Unseen

namespace MarketWire.Text

inductive Direction where
  | leftToRight
  | rightToLeft
  | europeanNumber
  | arabicNumber
  | neutral
  | attached
  deriving DecidableEq, Repr

namespace Direction

def rightToLeftRanges : List (Nat × Nat) := [
  (0x5be, 0x5f4), (0x608, 0x608), (0x60b, 0x60b), (0x60d, 0x60d), (0x61b, 0x64a), (0x66d, 0x6d5),
  (0x6e5, 0x6e6), (0x6ee, 0x6ef), (0x6fa, 0x7f5), (0x7fa, 0x8c9), (0xfbb2, 0xfbc2),
  (0xfe73, 0xfe73), (0x10800, 0x1091b), (0x10920, 0x10b35), (0x10b40, 0x10d23), (0x10d40, 0x10d8f),
  (0x10e80, 0x10ec7), (0x10f00, 0x10ff6), (0x1e800, 0x1ed3d)]

def europeanNumberRanges : List (Nat × Nat) := [
  (0x30, 0x39), (0x6f0, 0x6f9), (0x102e1, 0x102fb)]

def arabicNumberRanges : List (Nat × Nat) := [
  (0x660, 0x669), (0x66b, 0x66c), (0x10d30, 0x10d39), (0x10e60, 0x10e7e)]

def neutralRanges : List (Nat × Nat) := [
  (0x21, 0x2e), (0x3b, 0x3d), (0x5f, 0x5f), (0x7e, 0xd7), (0xf7, 0xf7), (0x2b9, 0x2ba),
  (0x2c2, 0x2cf), (0x2d2, 0x2ed), (0x2ef, 0x2ff), (0x375, 0x375), (0x3f6, 0x3f6), (0x58a, 0x58f),
  (0x606, 0x607), (0x609, 0x60a), (0x60c, 0x60c), (0x60e, 0x60f), (0x66a, 0x66a), (0x6de, 0x6de),
  (0x6e9, 0x6e9), (0x7f6, 0x7f9), (0x9f2, 0x9f3), (0x9fb, 0x9fb), (0xaf1, 0xaf1), (0xbf3, 0xbfa),
  (0xc78, 0xc7e), (0xe3f, 0xe3f), (0xf3a, 0xf3d), (0x1390, 0x1399), (0x1400, 0x1400),
  (0x169b, 0x169c), (0x17db, 0x17db), (0x17f0, 0x180a), (0x1940, 0x1945), (0x19de, 0x19ff),
  (0x200c, 0x214d), (0x218a, 0x2335), (0x237b, 0x2394), (0x2396, 0x26ab), (0x26ad, 0x27ff),
  (0x2900, 0x2bff), (0x2ce5, 0x2cea), (0x2cf9, 0x2cff), (0x2e00, 0x3004), (0x3008, 0x3020),
  (0x3030, 0x3030), (0x3037, 0x3037), (0x303d, 0x303f), (0x30a0, 0x30a0), (0x30fb, 0x30fb),
  (0x31c0, 0x31e5), (0x4dc0, 0x4dff), (0xa490, 0xa4c6), (0xa60d, 0xa60f), (0xa673, 0xa67f),
  (0xa700, 0xa721), (0xa788, 0xa788), (0xa828, 0xa82b), (0xa838, 0xa839), (0xa874, 0xa877),
  (0xab6a, 0xab6b), (0xfbc3, 0xfe46), (0x10101, 0x10101), (0x10140, 0x1018c), (0x10190, 0x101a0),
  (0x1091f, 0x1091f), (0x10b39, 0x10b3f), (0x10ed0, 0x10ed8), (0x11052, 0x11065),
  (0x11660, 0x1166c), (0x11fd5, 0x11ff1), (0x16fe2, 0x16fe2), (0x1cc00, 0x1cef0),
  (0x1d1e9, 0x1d245), (0x1d300, 0x1d356), (0x1e2ff, 0x1e2ff), (0x1eef0, 0x1f12f),
  (0x1f16d, 0x1f16f), (0x1f1ad, 0x1f1ad), (0x1f260, 0x1fbfa)]

def spacingMarkRanges : List (Nat × Nat) := [
  (0x9be, 0x9be), (0x9d7, 0x9d7), (0xb3e, 0xb3e), (0xb57, 0xb57), (0xbbe, 0xbbe), (0xbd7, 0xbd7),
  (0xcbf, 0xcc0), (0xcc2, 0xcc2), (0xcc6, 0xcc8), (0xcca, 0xccb), (0xcd5, 0xcd6), (0xd3e, 0xd3e),
  (0xd57, 0xd57), (0xdcf, 0xdcf), (0xddf, 0xddf), (0x1715, 0x1715), (0x1734, 0x1734),
  (0x1b35, 0x1b35), (0x1b3b, 0x1b3b), (0x1b3d, 0x1b3d), (0x1b43, 0x1b44), (0x1baa, 0x1baa),
  (0x1bf2, 0x1bf3), (0x302e, 0x302f), (0xa953, 0xa953), (0xa9c0, 0xa9c0), (0x111c0, 0x111c0),
  (0x11235, 0x11235), (0x1133e, 0x1133e), (0x1134d, 0x1134d), (0x11357, 0x11357),
  (0x114b0, 0x114b0), (0x114bd, 0x114bd), (0x115af, 0x115af), (0x116b6, 0x116b6),
  (0x11930, 0x11930), (0x1193d, 0x1193d), (0x11a07, 0x11a08), (0x11c3f, 0x11c3f),
  (0x16ff0, 0x16ff1), (0x1d165, 0x1d166), (0x1d16d, 0x1d172)]

def isAttached (c : Char) : Bool := isMark c && isUnseen c && !inRanges spacingMarkRanges c

def ofChar (c : Char) : Direction :=
  if isAttached c then .attached
  else if inRanges rightToLeftRanges c then .rightToLeft
  else if inRanges europeanNumberRanges c then .europeanNumber
  else if inRanges arabicNumberRanges c then .arabicNumber
  else if inRanges neutralRanges c then .neutral
  else .leftToRight

end Direction

end MarketWire.Text
