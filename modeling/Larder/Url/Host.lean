import Larder.Net.Address
import Larder.Url.Domain
import Larder.Url.Percent

/-!
The hosts of URLs.

In the schemes of the web a host is a domain or an address, in any of the ways in which an address may
be written; elsewhere it is kept as it stands.
-/

namespace Larder

inductive UrlError
  | relative
  | emptyHost
  | invalidPort
  | invalidIpv4
  | invalidIpv6
  | invalidDomain
  | forbiddenCharacter
deriving DecidableEq, Repr

def UrlError.message : UrlError → String
  | .relative => "relative URL without a base"
  | .emptyHost => "empty host"
  | .invalidPort => "invalid port number"
  | .invalidIpv4 => "invalid IPv4 address"
  | .invalidIpv6 => "invalid IPv6 address"
  | .invalidDomain => "invalid international domain name"
  | .forbiddenCharacter => "invalid domain character"

namespace Url

def inBase? (base : Nat) (chars : List Char) : Option Nat := do
  let digits ← chars.mapM Uuid.hexDigit?
  if digits.all (· < base) then some (digits.foldl (fun value d => value * base + d) 0) else none

/-- One part of an address of version 4: in base 16 with a mark, in base 8 behind a zero, or in
decimal. -/
def addressPart? : List Char → Option Nat
  | [] => none
  | '0' :: 'x' :: digits | '0' :: 'X' :: digits => inBase? 16 digits
  | '0' :: d :: digits => inBase? 8 (d :: digits)
  | digits => inBase? 10 digits

def labels (domain : List Char) : List (List Char) :=
  let parts := Text.parts '.' domain
  if 1 < parts.length && parts.getLast? == some [] then parts.dropLast else parts

/-- Whether a domain is meant as an address: its last part is a number. -/
def endsInNumber (domain : List Char) : Bool :=
  match (labels domain).getLast? with
  | some last => (!last.isEmpty && last.all Char.isDigit) ||
      (("0x".toList.isPrefixOf last || "0X".toList.isPrefixOf last) && (addressPart? last).isSome)
  | none => false

/-- The number of an address given in parts: every part but the last is one octet, the last gives the
rest. -/
def addressNumber? (parts : List Nat) : Option Nat :=
  match parts.getLast? with
  | none => none
  | some last =>
      let octets := parts.dropLast
      let room := Nat.pow 256 (4 - octets.length)
      if 3 < octets.length || octets.any (255 < ·) || room ≤ last then none
      else some (octets.foldl (fun value octet => value * 256 + octet) 0 * room + last)

def lenientAddress? (domain : List Char) : Option Net.Address := do
  let number ← addressNumber? (← (labels domain).mapM addressPart?)
  return .v4 [number >>> 24 % 256, number >>> 16 % 256, number >>> 8 % 256, number % 256]

def bracketedHost (chars : List Char) : Except UrlError String :=
  match chars.reverse with
  | ']' :: inside =>
      match Net.allGroups? inside.reverse with
      | some groups => .ok ("[" ++ (Net.Address.v6 groups).toText ++ "]")
      | none => .error .invalidIpv6
  | _ => .error .invalidIpv6

def webHost (chars : List Char) : Except UrlError String :=
  let bytes := percentDecode (Text.Utf8.encode (String.ofList chars))
  match readDomain? (Text.Utf8.decodeLossy bytes).toList with
  | none => .error .invalidDomain
  | some domain =>
      if domain.isEmpty then .error .emptyHost
      else if endsInNumber domain then
        match lenientAddress? domain with
        | some address => .ok address.toText
        | none => .error .invalidIpv4
      else .ok (String.ofList domain)

def plainHost (chars : List Char) : Except UrlError String :=
  if chars.any isForbidden then .error .forbiddenCharacter
  else .ok (String.ofList (percentEncode (fun _ => false) chars))

def readHost (web : Bool) (chars : List Char) : Except UrlError String :=
  if chars.head? == some '[' then bracketedHost (chars.drop 1)
  else if web then webHost chars
  else plainHost chars

end Url

end Larder
