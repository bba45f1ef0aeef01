import MarketWire.Host.Basic
import MarketWire.Stream.Error

namespace MarketWire.Stream

structure Address where
  scheme : String
  site : Site
  target : String
  deriving DecidableEq, Repr

namespace Address

inductive Fault where
  | empty
  | tooLong
  | schemeTooLong
  | character
  | authority
  | format
  deriving DecidableEq, Repr

def Fault.text : Fault → String
  | .empty => "empty string"
  | .tooLong => "uri too long"
  | .schemeTooLong => "scheme too long"
  | .character => "invalid uri character"
  | .authority => "invalid authority"
  | .format => "invalid format"

def maxLength : Nat := 65534

def maxSchemeLength : Nat := 64

structure Scan where
  colons : Nat
  percent : Bool
  opened : Bool
  closed : Bool
  deriving DecidableEq, Repr

def Scan.start : Scan := ⟨0, false, false, false⟩

def maxColons : Nat := 8

def isAuthorityMark (c : Char) : Bool :=
  ['!', '$', '&', '\'', '(', ')', '*', '+', ',', '-', '.', ';', '=', '_', '~'].contains c

def Scan.next (s : Scan) (c : Char) : Except Fault Scan :=
  if c = ':' then
    if maxColons ≤ s.colons then .error .authority else .ok { s with colons := s.colons + 1 }
  else if c = '[' then
    if s.percent || s.opened then .error .authority else .ok { s with opened := true }
  else if c = ']' then
    if !s.opened || s.closed then .error .authority
    else .ok { s with closed := true, colons := 0, percent := false }
  else if c = '@' then .ok { s with colons := 0, percent := false }
  else if c = '%' then .ok { s with percent := true }
  else if c.isAlphanum || isAuthorityMark c then .ok s
  else .error .character

def checkAuthority (cs : List Char) : Except Fault Unit :=
  (cs.foldlM Scan.next Scan.start).bind fun s =>
    if s.opened != s.closed || 1 < s.colons || s.percent || cs.getLast? == some '@' then
      .error .authority
    else .ok ()

def hostPort (authority : List Char) : List Char :=
  (authority.reverse.takeWhile (· != '@')).reverse

def hostText (authority : List Char) : List Char :=
  let cs := hostPort authority
  if cs.head? = some '[' then cs.takeWhile (· != ']') ++ [']'] else cs.takeWhile (· != ':')

def portNumber? (authority : List Char) : Option Nat :=
  let digits := (authority.reverse.takeWhile (· != ':')).reverse
  let digits := if digits.head? = some '+' then digits.drop 1 else digits
  if authority.contains ':' then
    (Number.ofNumeral? 10 digits).bind fun n => if n < Number.twoTo 16 then some n else none
  else none

def isTargetChar (refused : List Char) (c : Char) : Bool :=
  0x20 < c.toNat && c.toNat != 0x7f && !refused.contains c

def refusedInPath : List Char := ['<', '>', '\x60']

def refusedInQuery : List Char := ['"', '<', '>']

def checkTarget (cs : List Char) : Except Fault Unit :=
  let cs := cs.takeWhile (· != '#')
  if (cs.takeWhile (· != '?')).all (isTargetChar refusedInPath)
      && (cs.dropWhile (· != '?')).all (isTargetChar refusedInQuery) then .ok ()
  else .error .character

def targetOf (cs : List Char) : String :=
  let cs := cs.takeWhile (· != '#')
  match cs with
  | '/' :: _ => String.ofList cs
  | _ => String.ofList ('/' :: cs)

structure Parts where
  scheme : Option (List Char)
  authority : List Char
  target : List Char
  deriving DecidableEq, Repr

def isSchemeChar (c : Char) : Bool := c.isAlphanum || ['+', '-', '.', '~'].contains c

def splitScheme : List Char → Option (List Char × List Char)
  | ':' :: '/' :: '/' :: rest => some ([], rest)
  | c :: rest => if isSchemeChar c then (splitScheme rest).map fun s => (c :: s.1, s.2) else none
  | [] => none

def endsAuthority (c : Char) : Bool := c == '/' || c == '?' || c == '#'

def authorityOf (cs : List Char) : List Char := cs.takeWhile fun c => !endsAuthority c

def afterAuthority (cs : List Char) : List Char := cs.dropWhile fun c => !endsAuthority c

def onlyAuthority (cs : List Char) : Except Fault Parts :=
  (checkAuthority (authorityOf cs)).bind fun _ =>
    if (afterAuthority cs).isEmpty then .ok ⟨none, cs, []⟩
    else .error (if cs.length = 1 then .character else .format)

def afterScheme (scheme cs : List Char) : Except Fault Parts :=
  if maxSchemeLength < scheme.length then .error .schemeTooLong
  else if cs.isEmpty then .error .empty
  else
    (checkAuthority (authorityOf cs)).bind fun _ =>
      if (authorityOf cs).isEmpty then .error .format
      else (checkTarget (afterAuthority cs)).map fun _ =>
        ⟨some scheme, authorityOf cs, afterAuthority cs⟩

def split (cs : List Char) : Except Fault Parts :=
  if cs.isEmpty then .error .empty
  else if cs = ['*'] then .ok ⟨none, [], cs⟩
  else if cs.head? = some '/' then (checkTarget cs).map fun _ => ⟨none, [], cs⟩
  else if cs.length ≤ 3 then onlyAuthority cs
  else
    match splitScheme cs with
    | some (scheme, rest) => afterScheme scheme rest
    | none => onlyAuthority cs

def defaultPort? (scheme : List Char) : Option Nat :=
  if scheme = ['w', 's'] then some 80
  else if scheme = ['w', 's', 's'] then some 443
  else none

def ofParts (p : Parts) : Except StreamError Address :=
  let scheme := p.scheme.getD []
  if p.authority.isEmpty then .error (.ofFault .noHost)
  else
    match portNumber? p.authority <|> defaultPort? scheme with
    | some n =>
        .ok ⟨String.ofList scheme, ⟨.ofText (hostText p.authority), n⟩, targetOf p.target⟩
    | none => .error (.ofFault (.url "URL scheme not supported"))

def parse (text : String) : Except StreamError Address :=
  match if maxLength < text.utf8ByteSize then .error .tooLong else split text.toList with
  | .ok parts => ofParts parts
  | .error fault => .error (.connectionFailed fault.text)

end Address

end MarketWire.Stream
