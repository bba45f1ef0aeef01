import MarketWire.Host.Basic
import MarketWire.Text.Blank

namespace MarketWire.Rest

structure Url where
  scheme : String
  site : Site
  path : List (List Char)
  query : Option (List Char)
  fragment : Option (List Char)
  deriving DecidableEq, Repr

namespace Url

def isSlash (c : Char) : Bool := c == '/' || c == '\\'

def defaultPort? (scheme : String) : Option Nat :=
  if scheme = "http" then some 80
  else if scheme = "https" then some 443
  else none

def clean (cs : List Char) : List Char :=
  (Text.stripEnds (fun c => c.toNat ≤ 0x20) cs).filter fun c => c != '\t' && c != '\n' && c != '\r'

def endsAuthority (c : Char) : Bool := isSlash c || c == '?' || c == '#'

def afterCredentials (cs : List Char) : List Char × Bool :=
  ((cs.reverse.takeWhile (· != '@')).reverse, cs.contains '@')

def splitPort (inBrackets : Bool) : List Char → List Char × Option (List Char)
  | [] => ([], none)
  | c :: rest =>
      if c = ':' ∧ !inBrackets then ([], some rest)
      else
        let (host, portDigits) := splitPort (c == '[' || (inBrackets && c != ']')) rest
        (c :: host, portDigits)

def portNumber? (default : Nat) : Option (List Char) → Option Nat
  | none => some default
  | some [] => some default
  | some ds =>
      if ds.all Char.isDigit then
        let n := ds.foldl (fun n d => n * 10 + (d.toNat - 48)) 0
        if n < 65536 then some n else none
      else none

def encodedInPath : List Char := ['"', '#', '<', '>', '?', '\x60', '\x7b', '\x7d']

def encodedInFragment : List Char := ['"', '<', '>', '\x60']

def encodedInQuery : List Char := ['"', '#', '<', '>', '\'']

def keepsAllBut (encoded : List Char) (c : Char) : Bool :=
  0x20 < c.toNat && c.toNat < 0x7f && !encoded.contains c

def encodeSegment (cs : List Char) : List Char :=
  Text.Percent.encodeChars (keepsAllBut encodedInPath) cs

def plainDots : List Char → List Char
  | '%' :: '2' :: e :: rest =>
      if e = 'e' ∨ e = 'E' then '.' :: plainDots rest else '%' :: '2' :: plainDots (e :: rest)
  | c :: rest => c :: plainDots rest
  | [] => []

def isSingleDot (segment : List Char) : Bool := plainDots segment == ['.']

def isDoubleDot (segment : List Char) : Bool := plainDots segment == ['.', '.']

def isDrive : List Char → Bool
  | [letter, mark] => letter.isAlpha && (mark == ':' || mark == '|')
  | _ => false

def leave (before : List (List Char)) : List (List Char) :=
  if before.head?.any isDrive then before else before.drop 1

def resolve : List (List Char) → List (List Char) → List (List Char)
  | before, [] => before.reverse
  | before, [s] =>
      if isDoubleDot s then (([] : List Char) :: leave before).reverse
      else if isSingleDot s then ([] :: before).reverse
      else (encodeSegment s :: before).reverse
  | before, s :: rest =>
      if isDoubleDot s then resolve (leave before) rest
      else if isSingleDot s then resolve before rest
      else resolve (encodeSegment s :: before) rest

def segments (cs : List Char) : List (List Char) :=
  match cs with
  | [] => [[]]
  | c :: rest => resolve [] (Text.pieces isSlash (if isSlash c then rest else cs))

def encodeAfter (mark : Char) (encoded : List Char) : List Char → Option (List Char)
  | c :: rest =>
      if c = mark then some (Text.Percent.encodeChars (keepsAllBut encoded) rest) else none
  | [] => none

def ofParts? (scheme : String) (defaultPort : Nat) (rest : List Char) : Option Url :=
  let rest := rest.dropWhile isSlash
  let (hostPort, credentials) := afterCredentials (rest.takeWhile fun c => !endsAuthority c)
  let tail := rest.dropWhile fun c => !endsAuthority c
  let (host, portDigits) := splitPort false hostPort
  let target := tail.takeWhile (· != '#')
  if credentials ∧ hostPort.isEmpty then none
  else
    (Host.parse? host).bind fun host =>
      (portNumber? defaultPort portDigits).map fun portNumber =>
        ⟨scheme, ⟨host, portNumber⟩, segments (target.takeWhile (· != '?')),
          encodeAfter '?' encodedInQuery (target.dropWhile (· != '?')),
          encodeAfter '#' encodedInFragment (tail.dropWhile (· != '#'))⟩

def parse? (text : String) : Option Url :=
  let cs := clean text.toList
  let scheme := String.ofList ((cs.takeWhile (· != ':')).map Char.toLower)
  match defaultPort? scheme, cs.dropWhile (· != ':') with
  | some portNumber, ':' :: rest => ofParts? scheme portNumber rest
  | _, _ => none

def markedText (mark : Char) : Option (List Char) → List Char
  | some cs => mark :: cs
  | none => []

def target (u : Url) : List Char :=
  u.path.flatMap (fun s => '/' :: s) ++ markedText '?' u.query

def siteText (u : Url) : List Char :=
  u.site.host.text
    ++ if defaultPort? u.scheme = some u.site.portNumber then []
      else ':' :: Number.digitsOf u.site.portNumber

def text (u : Url) : List Char :=
  u.scheme.toList ++ [':', '/', '/'] ++ u.siteText ++ u.target ++ markedText '#' u.fragment

end Url

end MarketWire.Rest
