import MarketWire.Json.Draft

namespace MarketWire.Json

def isSpace (c : Char) : Bool := c == ' ' || c == '\n' || c == '\t' || c == '\r'

def skipSpace (cs : List Char) : List Char := cs.dropWhile isSpace

def isDigit (c : Char) : Bool := '0' ≤ c && c ≤ '9'

def hexValue (c : Char) : Option Nat :=
  let n := c.toNat
  if 48 ≤ n ∧ n ≤ 57 then some (n - 48)
  else if 97 ≤ n ∧ n ≤ 102 then some (n - 87)
  else if 65 ≤ n ∧ n ≤ 70 then some (n - 55)
  else none

def hexUnit (a b c d : Char) : Option Nat :=
  match hexValue a, hexValue b, hexValue c, hexValue d with
  | some a, some b, some c, some d => some (((a * 16 + b) * 16 + c) * 16 + d)
  | _, _, _, _ => none

def simpleEscape (c : Char) : Option Char :=
  if c = '"' then some '"'
  else if c = '\\' then some '\\'
  else if c = '/' then some '/'
  else if c = 'b' then some '\x08'
  else if c = 'f' then some '\x0c'
  else if c = 'n' then some '\n'
  else if c = 'r' then some '\r'
  else if c = 't' then some '\t'
  else none

def readGlyphs : List Char → Option (Literal × List Char)
  | [] => none
  | '"' :: rest => some ([], rest)
  | '\\' :: 'u' :: a :: b :: c :: d :: rest =>
      match hexUnit a b c d with
      | some u => (readGlyphs rest).map fun r => (.unit u :: r.1, r.2)
      | none => none
  | '\\' :: e :: rest =>
      match simpleEscape e with
      | some c => (readGlyphs rest).map fun r => (.char c :: r.1, r.2)
      | none => none
  | c :: rest =>
      if c.toNat < 32 ∨ c = '\\' then none
      else (readGlyphs rest).map fun r => (.char c :: r.1, r.2)

def spanDigits (cs : List Char) : List Char × List Char :=
  (cs.takeWhile isDigit, cs.dropWhile isDigit)

def readWhole (cs : List Char) : Option (List Char × List Char) :=
  match spanDigits cs with
  | ([], _) => none
  | (d :: ds, rest) => if d = '0' ∧ !ds.isEmpty then none else some (d :: ds, rest)

def readFraction : List Char → Option (Option (List Char) × List Char)
  | '.' :: cs =>
      match spanDigits cs with
      | ([], _) => none
      | (ds, rest) => some (some ds, rest)
  | cs => some (none, cs)

def readExponentDigits (minus : Bool) (cs : List Char) :
    Option (Option (Bool × List Char) × List Char) :=
  match spanDigits cs with
  | ([], _) => none
  | (ds, rest) => some (some (minus, ds), rest)

def readExponentSign : List Char → Option (Option (Bool × List Char) × List Char)
  | '+' :: cs => readExponentDigits false cs
  | '-' :: cs => readExponentDigits true cs
  | cs => readExponentDigits false cs

def readExponent : List Char → Option (Option (Bool × List Char) × List Char)
  | 'e' :: cs => readExponentSign cs
  | 'E' :: cs => readExponentSign cs
  | cs => some (none, cs)

def readUnsigned (negative : Bool) (cs : List Char) : Option (Numeral × List Char) :=
  (readWhole cs).bind fun w =>
    (readFraction w.2).bind fun f =>
      (readExponent f.2).map fun e => (⟨negative, w.1, f.1, e.1⟩, e.2)

def readNumeral : List Char → Option (Numeral × List Char)
  | '-' :: cs => readUnsigned true cs
  | cs => readUnsigned false cs

def dropWord : List Char → List Char → Option (List Char)
  | [], cs => some cs
  | w :: ws, c :: cs => if w = c then dropWord ws cs else none
  | _ :: _, [] => none

mutual

def readValue : Nat → List Char → Option (Draft × List Char)
  | 0, _ => none
  | n + 1, cs =>
      match skipSpace cs with
      | [] => none
      | c :: rest =>
          if c = '"' then (readGlyphs rest).map fun r => (.str r.1, r.2)
          else if c = '[' then (readItems n rest).map fun r => (.arr r.1, r.2)
          else if c = '\x7b' then (readMembers n rest).map fun r => (.obj r.1, r.2)
          else if c = 'n' then (dropWord ['u', 'l', 'l'] rest).map fun r => (.null, r)
          else if c = 't' then (dropWord ['r', 'u', 'e'] rest).map fun r => (.bool true, r)
          else if c = 'f' then (dropWord ['a', 'l', 's', 'e'] rest).map fun r => (.bool false, r)
          else (readNumeral (c :: rest)).map fun r => (.num r.1, r.2)

def readItems : Nat → List Char → Option (List Draft × List Char)
  | 0, _ => none
  | n + 1, cs =>
      match skipSpace cs with
      | ']' :: rest => some ([], rest)
      | cs =>
          match readValue n cs with
          | none => none
          | some (v, rest) => (readMoreItems n rest).map fun r => (v :: r.1, r.2)

def readMoreItems : Nat → List Char → Option (List Draft × List Char)
  | 0, _ => none
  | n + 1, cs =>
      match skipSpace cs with
      | ']' :: rest => some ([], rest)
      | ',' :: rest =>
          match readValue n rest with
          | none => none
          | some (v, rest) => (readMoreItems n rest).map fun r => (v :: r.1, r.2)
      | _ => none

def readMembers : Nat → List Char → Option (List (Literal × Draft) × List Char)
  | 0, _ => none
  | n + 1, cs =>
      match skipSpace cs with
      | '\x7d' :: rest => some ([], rest)
      | cs =>
          match readMember n cs with
          | none => none
          | some (m, rest) => (readMoreMembers n rest).map fun r => (m :: r.1, r.2)

def readMoreMembers : Nat → List Char → Option (List (Literal × Draft) × List Char)
  | 0, _ => none
  | n + 1, cs =>
      match skipSpace cs with
      | '\x7d' :: rest => some ([], rest)
      | ',' :: rest =>
          match readMember n rest with
          | none => none
          | some (m, rest) => (readMoreMembers n rest).map fun r => (m :: r.1, r.2)
      | _ => none

def readMember : Nat → List Char → Option ((Literal × Draft) × List Char)
  | 0, _ => none
  | n + 1, cs =>
      match skipSpace cs with
      | '"' :: rest =>
          match readGlyphs rest with
          | none => none
          | some (name, rest) =>
              match skipSpace rest with
              | ':' :: rest => (readValue n rest).map fun r => ((name, r.1), r.2)
              | _ => none
      | _ => none

end

def Draft.read? (cs : List Char) : Option Draft :=
  match readValue (3 * cs.length + 3) cs with
  | some (d, rest) => if (skipSpace rest).isEmpty then some d else none
  | none => none

def read? (text : String) : Option Json :=
  (Draft.read? text.toList).bind (Draft.value? maxLevels)

-- Stands for the reason a parser gives: that a text is rejected is modelled, not the words.
def complaint : String := "<json>"

end MarketWire.Json
