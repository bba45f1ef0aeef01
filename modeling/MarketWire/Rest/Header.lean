import MarketWire.Text.Blank
import MarketWire.Text.Utf8

namespace MarketWire.Rest.Header

def lowerName (name : String) : String := String.ofList (name.toList.map Char.toLower)

def isTokenChar (c : Char) : Bool :=
  ('0' ≤ c && c ≤ '9') || ('a' ≤ c && c ≤ 'z') || ('A' ≤ c && c ≤ 'Z')
    || ['!', '#', '$', '%', '&', '\'', '*', '+', '-', '.', '^', '_', '\x60', '|', '~'].contains c

def isName (name : String) : Bool := !name.isEmpty && name.toList.all isTokenChar

def isValueChar (c : Char) : Bool := c == '\t' || (0x20 ≤ c.toNat && c.toNat != 0x7f)

def isValue (value : String) : Bool := value.toList.all isValueChar

def received (value : String) : String := String.ofList (Text.stripEnd Text.isBlank value.toList)

def hasName (name : String) (headers : List (String × String)) : Bool :=
  headers.any fun h => h.1 == name

def set (headers : List (String × String)) (name value : String) : List (String × String) :=
  headers.filter (fun h => h.1 != lowerName name) ++ [(lowerName name, value)]

def withDefaults (defaults headers : List (String × String)) : List (String × String) :=
  headers ++ defaults.filter fun d => !hasName d.1 headers

end MarketWire.Rest.Header
