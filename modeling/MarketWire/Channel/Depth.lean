namespace MarketWire.Channel

inductive Depth where
  | full
  | five
  | fiftyByTick
  | fullByTick
  deriving DecidableEq, Repr

namespace Depth

def all : List Depth := [full, five, fiftyByTick, fullByTick]

def channel : Depth → String
  | full => "books"
  | five => "books5"
  | fiftyByTick => "books50-l2-tbt"
  | fullByTick => "books-l2-tbt"

def ofChannel? (s : String) : Option Depth := all.find? fun d => d.channel == s

def rejection (s : String) : String :=
  "Invalid book depth: " ++ s ++ ". Valid values: books, books5, books50-l2-tbt, books-l2-tbt"

end Depth

end MarketWire.Channel
